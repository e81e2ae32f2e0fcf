import TransactionalCollection.BTree.Attempts
import TransactionalCollection.BTree.Codec
import TransactionalCollection.BTree.File
import TransactionalCollection.BTree.Lifecycle
import TransactionalCollection.BTree.Literal
import TransactionalCollection.BTree.Payload
import TransactionalCollection.BTree.Reads
import TransactionalCollection.BTree.Restore
import TransactionalCollection.BTree.Rows
import TransactionalCollection.BTree.Serial
import TransactionalCollection.BTree.Steps
import TransactionalCollection.BTree.Visibility
import TransactionalCollection.BTree.Writers
import TransactionalCollection.Collection.Bounds
import TransactionalCollection.Collection.Copy
import TransactionalCollection.Collection.Encode
import TransactionalCollection.Collection.Membership
import TransactionalCollection.Collection.Schema
import TransactionalCollection.Collection.Slices
import TransactionalCollection.Collection.Transport
import TransactionalCollection.Collection.TreeRoutes
import TransactionalCollection.Collection.View
import TransactionalCollection.Collection.Writes
import TransactionalCollection.Contract.Crashes
import TransactionalCollection.Contract.Decisions
import TransactionalCollection.Contract.Disjoint
import TransactionalCollection.Contract.FirstWriters
import TransactionalCollection.Contract.Identity
import TransactionalCollection.Contract.Outcome
import TransactionalCollection.Contract.RepeatableReads
import TransactionalCollection.Contract.Restoration
import TransactionalCollection.Contract.RoundTrip
import TransactionalCollection.Execution.Filling
import TransactionalCollection.Execution.Panics
import TransactionalCollection.Execution.Parsing
import TransactionalCollection.Execution.Scattering
import TransactionalCollection.Execution.Scripts
import TransactionalCollection.Execution.Stateful
import TransactionalCollection.Execution.Traversals
import TransactionalCollection.Layering.Ledger
import TransactionalCollection.Layering.Meaning
import TransactionalCollection.Layering.Overlay
import TransactionalCollection.Layering.Replay
import TransactionalCollection.Layering.Timeline
import TransactionalCollection.Native.Codec
import TransactionalCollection.Native.Columns
import TransactionalCollection.Native.Datum
import TransactionalCollection.Native.Forms
import TransactionalCollection.Native.Semaphore
import TransactionalCollection.Native.Signature
import TransactionalCollection.Numeric.Inner
import TransactionalCollection.Numeric.Picking
import TransactionalCollection.Numeric.Places
import TransactionalCollection.Numeric.Significand
import TransactionalCollection.Numeric.Spread
import TransactionalCollection.Persistence.Attempts
import TransactionalCollection.Persistence.Coherence
import TransactionalCollection.Persistence.Crashes
import TransactionalCollection.Persistence.Decisions
import TransactionalCollection.Persistence.Deferral
import TransactionalCollection.Persistence.FirstWriters
import TransactionalCollection.Persistence.Holding
import TransactionalCollection.Persistence.Interleaving
import TransactionalCollection.Persistence.Lifecycle
import TransactionalCollection.Persistence.Mutation
import TransactionalCollection.Persistence.Outcome
import TransactionalCollection.Persistence.Owner
import TransactionalCollection.Persistence.Repeat
import TransactionalCollection.Persistence.Replacement
import TransactionalCollection.Persistence.Reservation
import TransactionalCollection.Persistence.Serial
import TransactionalCollection.Persistence.Serialization
import TransactionalCollection.Persistence.Steps
import TransactionalCollection.Persistence.Visibility
import TransactionalCollection.Streaming.Prefix
import TransactionalCollection.Streaming.SortedStream
import TransactionalCollection.Streaming.StableStream
import TransactionalCollection.Table.Assignment
import TransactionalCollection.Table.Atomicity
import TransactionalCollection.Table.Cast
import TransactionalCollection.Table.Casting
import TransactionalCollection.Table.Collator
import TransactionalCollection.Table.Copy
import TransactionalCollection.Table.File
import TransactionalCollection.Table.Handle
import TransactionalCollection.Table.KeyRange
import TransactionalCollection.Table.KeyScan
import TransactionalCollection.Table.Lifecycle
import TransactionalCollection.Table.Listing
import TransactionalCollection.Table.Literal
import TransactionalCollection.Table.Loading
import TransactionalCollection.Table.LocalWrites
import TransactionalCollection.Table.Mutation
import TransactionalCollection.Table.Narrowing
import TransactionalCollection.Table.Payload
import TransactionalCollection.Table.Projection
import TransactionalCollection.Table.RangeWrites
import TransactionalCollection.Table.Reads
import TransactionalCollection.Table.Recording
import TransactionalCollection.Table.Refinement
import TransactionalCollection.Table.Requests
import TransactionalCollection.Table.Restore
import TransactionalCollection.Table.Routes
import TransactionalCollection.Table.Scan
import TransactionalCollection.Table.Schema
import TransactionalCollection.Table.Selection
import TransactionalCollection.Table.Selector
import TransactionalCollection.Table.Serial
import TransactionalCollection.Table.Serialization
import TransactionalCollection.Table.Serving
import TransactionalCollection.Table.Sessions
import TransactionalCollection.Table.Steps
import TransactionalCollection.Table.Storage
import TransactionalCollection.Table.ValueScan
import TransactionalCollection.Table.View
import TransactionalCollection.Table.ViewReads
import TransactionalCollection.Table.Visibility
import TransactionalCollection.Table.Writers
import TransactionalCollection.Tensors.Adjoint
import TransactionalCollection.Tensors.Answers
import TransactionalCollection.Tensors.Arithmetic
import TransactionalCollection.Tensors.Batches
import TransactionalCollection.Tensors.Broadcasting
import TransactionalCollection.Tensors.Casting
import TransactionalCollection.Tensors.Cells
import TransactionalCollection.Tensors.CommonShape
import TransactionalCollection.Tensors.Counting
import TransactionalCollection.Tensors.Dense
import TransactionalCollection.Tensors.Exactness
import TransactionalCollection.Tensors.Fibers
import TransactionalCollection.Tensors.Filling
import TransactionalCollection.Tensors.Floats
import TransactionalCollection.Tensors.Indices
import TransactionalCollection.Tensors.Matmul
import TransactionalCollection.Tensors.Product
import TransactionalCollection.Tensors.Reading
import TransactionalCollection.Tensors.Reduction
import TransactionalCollection.Tensors.Reshape
import TransactionalCollection.Tensors.Routes
import TransactionalCollection.Tensors.Shape
import TransactionalCollection.Tensors.Slicing
import TransactionalCollection.Tensors.States
import TransactionalCollection.Tensors.TransposedProduct
import TransactionalCollection.Tensors.TransposedSlice
import TransactionalCollection.Tensors.Transposing
import TransactionalCollection.Tensors.Views
import TransactionalCollection.Tensors.Wire
import TransactionalCollection.Tensors.Writing
