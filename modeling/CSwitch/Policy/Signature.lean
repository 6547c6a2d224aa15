import CSwitch.Types

/-! What moving a task is expected to add to, or take from, a domain. -/

set_option autoImplicit false

namespace CSwitch.Policy

structure TaskSignatureEffect where
  dfX100 : Nat := 0
  llcX100 : Nat := 0
  signatureValid : Bool := false

def l2BwToPressureX100 (l2BwMibSX100 capacityMibSX100 : Nat) : Nat :=
  min (l2BwMibSX100 * 10000 / max capacityMibSX100 1) 10000

def signatureIsValid (thread : Option ManagedThreadState) : Bool :=
  (thread.map (·.signature.valid)).getD false

/-- Near-cache plus near-DRAM fill bandwidth, else the projected DF pressure. -/
def signatureDf (signature : ThreadSignature) : Nat :=
  let fillSum := satAdd32 signature.nearCacheBw signature.dramNearBw
  if fillSum > 0 then fillSum else signature.projectedDfPressureX100

def taskSignatureEffect (task : QueuedTask) (thread : Option ManagedThreadState)
    (capacityMibSX100 : Nat) : TaskSignatureEffect :=
  let demandPressureX100 := l2BwToPressureX100 task.ewmaL2BwMibSX100 capacityMibSX100
  let signatureValid := signatureIsValid thread
  let signed := thread.filter fun _ => signatureValid
  { dfX100 := ((signed.map fun value => signatureDf value.signature).filter (· > 0)).getD
      task.ewmaL2BwMibSX100
    llcX100 := ((signed.map (·.signature.projectedLlcPressureX100)).filter (· > 0)).getD
      demandPressureX100
    signatureValid }

def threadSignatureEffect (thread : ManagedThreadState) : TaskSignatureEffect :=
  if !thread.signature.valid then {}
  else
    { dfX100 := signatureDf thread.signature
      llcX100 := thread.signature.projectedLlcPressureX100
      signatureValid := true }

end CSwitch.Policy
