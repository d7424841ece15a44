import Yui.RuntimeInbox

/-!
# The v1 wire shape

Encoding an event renames the AgentRun reference and the end-of-Turn flag, and decoding renames them
back. An object that does not use the wire names comes back as it was.
-/

open JsText Checked

namespace JsonData

section Members

variable {key other source target : String} {value : JsonData}

end Members

end JsonData

namespace RuntimeInbox

section Envelope

variable {source target : String} {value observation fence payload : JsonData}

end Envelope

end RuntimeInbox
