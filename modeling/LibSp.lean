import LibSp.Concurrent.Owner
import LibSp.Concurrent.Mutex
import LibSp.Params
import LibSp.Linux.Port
import LibSp.Linux.Framing
import LibSp.Linux.MutexRecv
import LibSp.Linux.Rules
import LibSp.Linux.Client
import LibSp.Linux.Worker
import LibSp.Linux.Runs
import LibSp.Linux.Receive
import LibSp.Linux.OpenClose
import LibSp.Windows.Kernel
import LibSp.Windows.Port
import LibSp.Windows.MutexRecv
import LibSp.Windows.Receive
import LibSp.Windows.Rules
import LibSp.Windows.Client
import LibSp.Windows.Open
import LibSp.Linux.Speed
import LibSp.Linux.Stop
import LibSp.Concurrent.Alone
import LibSp.Interface.FlowControl
import LibSp.Interface.Settings
import LibSp.Interface.Interchange
import LibSp.Concurrent.Amid
import LibSp.Concurrent.Guarded
import LibSp.Linux.Send
import LibSp.Windows.Watch
import LibSp.Windows.Threads
import LibSp.Windows.Stop
import LibSp.Windows.Handles
import LibSp.Windows.Send
import LibSp.Interface.Release
import LibSp.Interface.Sending
import LibSp.Interface.Callback
import LibSp.Windows.Enumeration
import LibSp.Linux.Enumeration
import LibSp.Interface.Accepting
import LibSp.Linux.Discipline
import LibSp.Linux.Requests
import LibSp.Concurrent.Leads
import LibSp.Concurrent.Turns
import LibSp.Concurrent.Relay
import LibSp.Concurrent.Fleet
import LibSp.Linux.Descriptors
import LibSp.Windows.Overlapped
import LibSp.Linux.Receiver
import LibSp.Windows.Receiver
import LibSp.Interface.Receiver
import LibSp.Windows.Process
import LibSp.Windows.Loggers
import LibSp.Concurrent.Register
import LibSp.Interface.Notify
import LibSp.Linux.Crowd
import LibSp.Linux.CrowdStream
import LibSp.Concurrent.Budget
import LibSp.Linux.Stopping
import LibSp.Concurrent.Progress
import LibSp.Linux.Progress
import LibSp.Concurrent.Ledger
import LibSp.Linux.Sent
import LibSp.Linux.Input
import LibSp.Linux.Delivering
import LibSp.Windows.Silence
import LibSp.Overlay
import LibSp.Linux.Reopening
import LibSp.Linux.Atomic
import LibSp.Windows.Monitors
import LibSp.Windows.Progress
