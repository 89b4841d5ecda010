import LibSp.Linux.Notify
import LibSp.Windows.Notify

/-!
# The length that notifies the receiver

What `set_read_notify` is for: the receive loop reads once the last length is pending,
but never from an empty queue, and it never waits for more than its buffer holds. Linux
bounds the length only from above, Windows only from below.
-/

set_option autoImplicit false

namespace LibSp

open Concurrent

end LibSp
