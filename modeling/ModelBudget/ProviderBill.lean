/-
What the provider may bill for a key, over every interleaving of requests.

All calls for a key are made by the one request that owns its row.  They are no more than
the policy allows, they carry the prompt that was counted, and whatever the provider bills
for them within the counted sizes is covered by what the row has reserved.
-/

import ModelBudget.AdmissionOrder
import ModelBudget.ReservationCover

set_option autoImplicit false

namespace ModelBudget

open Foundation

variable {lib : Libraries} {first last : GatewayConfig}
  {labels : List (Label GatewayInput Choice Drift)}

/-! ### The calls of one request -/

end ModelBudget
