import Repaint.Bytes.Lemmas
import Repaint.Datum
import Repaint.Render
import Repaint.Session
import Repaint.Slot.Place
import Repaint.Store.Run
import Repaint.Proofs.Wire
import Repaint.Proofs.Demand
import Repaint.Proofs.Reading
import Repaint.Proofs.Sweep
import Repaint.Proofs.Restoring
import Repaint.Proofs.Inner
import Repaint.Proofs.Cell
import Repaint.Proofs.Verdict
import Repaint.Proofs.LastCapture
import Repaint.Proofs.Layout
import Repaint.Proofs.Drift
import Repaint.Proofs.Canonical
import Repaint.Proofs.Noted
import Repaint.Proofs.Strict
import Repaint.Proofs.Configuration
import Repaint.Proofs.Recall
import Repaint.Proofs.Position
import Repaint.Proofs.Isolation
import Repaint.Proofs.Mode
import Repaint.Proofs.SharedStore
import Repaint.Proofs.Scopes
import Repaint.Proofs.Redraw
import Repaint.Proofs.Faults
import Repaint.Proofs.Extension
import Repaint.Proofs.Counted
import Repaint.Proofs.Permissive
import Repaint.Proofs.Underrun
import Repaint.Proofs.Trailing
import Repaint.Proofs.Swapped
import Repaint.Proofs.Echo
import Repaint.Proofs.Resaving
import Repaint.Proofs.Dealt
import Repaint.Proofs.Flag
import Repaint.Proofs.Records
import Repaint.Proofs.Discard
import Repaint.Proofs.Retyped
