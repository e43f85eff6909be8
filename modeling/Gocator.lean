import Gocator.Lib.Run
import Gocator.Facade.Impl
import Gocator.Threads.Silence
import Gocator.Threads.Isolation
import Gocator.Threads.Bounded
import Gocator.Threads.Status
import Gocator.Threads.Numbering
import Gocator.Threads.Progress
import Gocator.Threads.Budget
import Gocator.Threads.Dropped
import Gocator.Lib.Json
import Gocator.Lib.JsonPointer
import Gocator.Settings.GoJson
import Gocator.Settings.Manager
import Gocator.Settings.RootSettings
import Gocator.Settings.Restore
import Gocator.Lib.MergePatch
import Gocator.Settings.Retry
import Gocator.Lib.NestedPatch
import Gocator.Settings.Assign
import Gocator.Settings.Listing
import Gocator.Lib.JsonText
import Gocator.Lib.JsonWrite
import Gocator.Settings.Encoding
import Gocator.Lib.Substring
import Gocator.Settings.Outputs
import Gocator.Facade.Configure
import Gocator.Acquisition.Decode
import Gocator.Acquisition.Typed
import Gocator.Acquisition.Profile
import Gocator.Acquisition.Intensity
import Gocator.Acquisition.Sdk
import Gocator.Acquisition.Grab
import Gocator.Facade.Calls
import Gocator.Facade.Invariant
import Gocator.Facade.Notify
import Gocator.Widget.Exclusive
import Gocator.Widget.Locked
import Gocator.Widget.Settles
import Gocator.Lib.Strip
import Gocator.Widget.Address
import Gocator.Callbacks.Removal
import Gocator.Callbacks.FrameStream
import Gocator.Callbacks.SessionTitle
import Gocator.Lib.Locks
import Gocator.Callbacks.Reentry
import Gocator.Facade.Controller
import Gocator.Facade.FailedGrab
import Gocator.Adapter.Convert
import Gocator.Adapter.Samples
import Gocator.Adapter.Accept
import Gocator.Adapter.Consistent
import Gocator.Adapter.Surface
import Gocator.Adapter.Agree
import Gocator.Adapter.DataSet
import Gocator.Adapter.Delivery
import Gocator.Features.Tree
import Gocator.Features.Parameters
import Gocator.Features.Shown
import Gocator.Features.Editors
import Gocator.Features.Precision
import Gocator.Features.Grab
import Gocator.Features.Session
import Gocator.Features.Writer
import Gocator.Features.Splice
import Gocator.Features.Configured
import Gocator.Features.Outputs
import Gocator.Features.History
import Gocator.Features.Entries
import Gocator.Features.Edits
import Gocator.Features.Valid
import Gocator.Features.Kept
import Gocator.Features.Leaves
import Gocator.Features.Paths
import Gocator.Features.Tuning
import Gocator.Features.Printed
