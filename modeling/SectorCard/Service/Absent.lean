import SectorCard.Service.Request

/-!
# No service

On a machine where the smart-card service does not run, every call fails, and each with the same fault.
-/

namespace SectorCard.Service

/-- The machine without the service, as the other side of a dialogue. -/
def absent : Responder Service Unit := ⟨fun _ w => (.error .noService, w)⟩

end SectorCard.Service
