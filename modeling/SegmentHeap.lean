import SegmentHeap.Main
import SegmentHeap.Proofs.Handle.Access
import SegmentHeap.Proofs.Handle.Proper
import SegmentHeap.Proofs.Handle.Word
import SegmentHeap.Proofs.Heap.Alike
import SegmentHeap.Proofs.Heap.Confinement
import SegmentHeap.Proofs.KeyTable.Calls
import SegmentHeap.Proofs.KeyTable.Capacity
import SegmentHeap.Proofs.KeyTable.Catalog
import SegmentHeap.Proofs.KeyTable.Drawing
import SegmentHeap.Proofs.KeyTable.Freeing
import SegmentHeap.Proofs.KeyTable.Insertion
import SegmentHeap.Proofs.KeyTable.Ledger
import SegmentHeap.Proofs.KeyTable.LiveCount
import SegmentHeap.Proofs.KeyTable.Rehousing
import SegmentHeap.Proofs.Segment.Contents
import SegmentHeap.Proofs.Segment.Tags
import SegmentHeap.Proofs.Session.Flaws
import SegmentHeap.Proofs.Session.Reports
import SegmentHeap.Proofs.Session.Runs
import SegmentHeap.Proofs.Trace.Classes
import SegmentHeap.Proofs.Trace.Layout
import SegmentHeap.Proofs.Trace.Literal
import SegmentHeap.Proofs.Trace.Locality
import SegmentHeap.Proofs.Trace.Mnemonic
import SegmentHeap.Proofs.Trace.Rendering
import SegmentHeap.Proofs.Trap
import SegmentHeap.Proofs.Value
import SegmentHeap.Proofs.World.Accesses
import SegmentHeap.Proofs.World.ByteStore
import SegmentHeap.Proofs.World.Confinement
import SegmentHeap.Proofs.World.DrawnKeys
import SegmentHeap.Proofs.World.Flags
import SegmentHeap.Proofs.World.IssuedKeys
import SegmentHeap.Proofs.World.Journal
import SegmentHeap.Proofs.World.Programs
import SegmentHeap.Proofs.World.Resets
import SegmentHeap.Proofs.World.Sharing
import SegmentHeap.Proofs.World.Slicing
import SegmentHeap.Proofs.World.Sound
import SegmentHeap.Proofs.World.StaleKeys
import SegmentHeap.Proofs.World.StoredHandles
import SegmentHeap.Proofs.World.TrapTexts
import SegmentHeap.Proofs.World.Traps
import SegmentHeap.Proofs.World.Windows
import SegmentHeap.Proofs.World.Words
import SegmentHeap.Proofs.World.Writes
import SegmentHeap.World
