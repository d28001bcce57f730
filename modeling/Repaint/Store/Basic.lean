import Repaint.Config
import Repaint.Key

/-!
A store keeps one buffer a key, with the fingerprint of the slots it was saved from. Questions
about its contents see the keys in the order of their bytes. Entries are only ever added or
replaced.
-/

set_option autoImplicit false

namespace Repaint

structure Entry where
  layout : UInt32
  data : Bytes
  deriving DecidableEq

structure Store where
  entries : Std.ExtTreeMap Key Entry
  config : Config

namespace Store

def empty (config : Config) : Store := ⟨∅, config⟩

instance : Inhabited Store := ⟨empty default⟩

def configure (store : Store) (config : Config) : Store := { store with config }

def insert (store : Store) (key : Key) (entry : Entry) : Store :=
  { store with entries := store.entries.insert key entry }

def entry? (store : Store) (key : Key) : Option Entry := store.entries[key]?

/-- The buffer under a key. -/
def get? (store : Store) (key : Key) : Option Bytes := (store.entry? key).map Entry.data

def contains (store : Store) (key : Key) : Bool := store.entries.contains key

def length (store : Store) : Nat := store.entries.size

def isEmpty (store : Store) : Bool := store.entries.isEmpty

/-- The bytes held by keys and buffers together. -/
def size (store : Store) : Nat :=
  store.entries.foldl (fun total key entry => total + key.length + entry.data.length) 0

def keys (store : Store) : List Key := store.entries.keys

/-- The keys from the last to the first. -/
def keysDescending (store : Store) : List Key :=
  store.entries.foldl (fun keys key _ => key :: keys) []

end Store

/-- What one may ask a store without changing it. -/
inductive Query where
  | buffer (identity : Identity)
  | contains (identity : Identity)
  | config
  | summary
  deriving DecidableEq

structure Summary where
  length : Nat
  isEmpty : Bool
  size : Nat
  keys : List Key
  keysDescending : List Key
  deriving DecidableEq

inductive Finding where
  | buffer (data? : Option Bytes)
  | contains (present : Bool)
  | config (config : Config)
  | summary (summary : Summary)
  deriving DecidableEq

namespace Store

def summary (store : Store) : Summary where
  length := store.length
  isEmpty := store.isEmpty
  size := store.size
  keys := store.keys
  keysDescending := store.keysDescending

def ask (store : Store) : Query → Finding
  | .buffer identity => .buffer (store.get? identity.canonical)
  | .contains identity => .contains (store.contains identity.canonical)
  | .config => .config store.config
  | .summary => .summary store.summary

end Store

end Repaint
