import CSwitch.Dispatch.Throttle

/-! The election of the villain of a link: the thread that the memory signatures
blame for the overload that its victims report. -/

set_option autoImplicit false

namespace CSwitch.Villain

open Dispatch (LinkContender)
open Std (TreeMap TreeSet)

structure LinkContenders where
  candidateCount : Nat := 0
  best : Option LinkContender := none
  secondBest : Nat := 0

def LinkContenders.push (contenders : LinkContenders) (contender : LinkContender) :
    LinkContenders :=
  let candidateCount := satAdd32 contenders.candidateCount 1
  let contender := { contender with contenderCount := candidateCount }
  let contenders := { contenders with candidateCount }
  match contenders.best with
  | none => { contenders with best := some contender }
  | some best =>
      if contender.score ≥ best.score then
        { contenders with secondBest := best.score, best := some contender }
      else if contender.score > contenders.secondBest then
        { contenders with secondBest := contender.score }
      else contenders

/-- The leader wins when it is at least a tenth ahead of the next one. The plain
addition wraps in a release build. -/
def LinkContenders.winner (contenders : LinkContenders) : Option LinkContender :=
  match contenders.best with
  | none => none
  | some contender =>
      if contenders.candidateCount < 2 then none
      else
        let thresholdMet :=
          if contenders.secondBest > 0 then
            decide (contender.score ≥
              max (satAdd32 contenders.secondBest (contenders.secondBest / 10))
                ((contenders.secondBest + 1) % (u32Max + 1)))
          else decide (contender.score ≥ 500)
        if thresholdMet then some { contender with contenderCount := contenders.candidateCount }
        else none

def threadVillainScore (thread : ManagedThreadState) (linkId : Nat) : Nat :=
  if !thread.ioCsSignature.valid then 0
  else (thread.ioCsSignature.dfDomainDeltaX100[linkId]?).getD 0

def liveDfState (dfStates : List (Option CcmDfStateValue)) (domainId nowNs : Nat)
    (cfg : PolicyConfig) : Option CcmDfStateValue :=
  (getFlat dfStates domainId).filter fun state =>
    state.valid != 0 && !isStale state.sampleTsNs nowNs cfg.dfStaleMs

def liveDfBwX100 (dfStates : List (Option CcmDfStateValue)) (domainId nowNs : Nat)
    (cfg : PolicyConfig) : Option Nat :=
  (liveDfState dfStates domainId nowNs cfg).map CcmDfStateValue.bwX100

def liveDfOverloadX100WithCapacity (dfStates : List (Option CcmDfStateValue))
    (index capacityMibSX100 nowNs : Nat) (cfg : PolicyConfig) : Nat :=
  (liveDfBwX100 dfStates index nowNs cfg).getD 0 - capacityMibSX100

/-- The candidates of a link, in the order of the thread map. -/
def linkContenders (threads : ThreadMap) (linkId : Nat) : LinkContenders :=
  threads.toList.foldl (fun contenders (_, thread) =>
    let score := threadVillainScore thread linkId
    if score = 0 then contenders
    else contenders.push { tid := thread.tid, score, contenderCount := 0 }) {}

/-- The villain of a victim link, if its overload is still there. -/
def electLinkVillain (mapping : MappingInfo) (threads : ThreadMap)
    (dfLinkStates : List (Option CcmDfStateValue)) (victimFallbacks : TreeMap Nat LinkContender)
    (nowNs : Nat) (cfg : PolicyConfig) (linkId : Nat) : Option LinkContender :=
  if liveDfOverloadX100WithCapacity dfLinkStates linkId (mapping.csCapacityMibSX100 linkId) nowNs
      cfg = 0 then none
  else (linkContenders threads linkId).winner.or victimFallbacks[linkId]?

/-- The turn of one victim link in the election. -/
def seatVillain (elect : Nat → Option LinkContender) (out : List (Option LinkContender))
    (linkId : Nat) : List (Option LinkContender) :=
  if linkId ≥ out.length then out
  else
    match elect linkId with
    | none => out
    | some winner => out.set linkId (some winner)

def chooseLinkVillainsWithFallbacks (mapping : MappingInfo) (threads : ThreadMap)
    (victimLinks : TreeSet Nat) (dfLinkStates : List (Option CcmDfStateValue))
    (victimFallbacks : TreeMap Nat LinkContender) (nowNs : Nat) (cfg : PolicyConfig) :
    List (Option LinkContender) :=
  victimLinks.toList.foldl
    (seatVillain (electLinkVillain mapping threads dfLinkStates victimFallbacks nowNs cfg))
    (List.replicate (min dfLinkStates.length maxDomains) none)

section Seats

variable (elect : Nat → Option LinkContender) {out : List (Option LinkContender)} {link : Nat}

@[simp] theorem seatVillain_length (linkId : Nat) :
    (seatVillain elect out linkId).length = out.length := by
  unfold seatVillain
  split
  · rfl
  · split
    · rfl
    · exact List.length_set

theorem seatVillain_getFlat (linkId : Nat) (within : link < out.length) :
    getFlat (seatVillain elect out linkId) link =
      if linkId = link then (elect link).or (getFlat out link) else getFlat out link := by
  unfold seatVillain
  by_cases same : linkId = link
  · subst same
    rw [if_neg (by omega), if_pos rfl]
    cases elect linkId with
    | none => rfl
    | some winner => simp [getFlat, List.getElem?_set_self within]
  · rw [if_neg same]
    split
    · rfl
    · split
      · rfl
      · simp [getFlat, List.getElem?_set_ne same]

theorem seatVillains_getFlat (links : List Nat) (within : link < out.length) :
    getFlat (links.foldl (seatVillain elect) out) link =
      if link ∈ links then (elect link).or (getFlat out link) else getFlat out link := by
  induction links generalizing out with
  | nil => simp
  | cons head links ih =>
      rw [List.foldl_cons, ih (by simpa using within), seatVillain_getFlat elect head within]
      by_cases first : head = link
      · subst first
        cases elect head with
        | none => simp
        | some winner => simp
      · have other : link ≠ head := fun same => first same.symm
        simp [first, other]

end Seats

/-- The election gives the victim links their villains, and the others none. -/
theorem chooseLinkVillainsWithFallbacks_getFlat (mapping : MappingInfo) (threads : ThreadMap)
    (victimLinks : TreeSet Nat) (dfLinkStates : List (Option CcmDfStateValue))
    (victimFallbacks : TreeMap Nat LinkContender) (nowNs : Nat) (cfg : PolicyConfig) {link : Nat}
    (within : link < min dfLinkStates.length maxDomains) :
    getFlat (chooseLinkVillainsWithFallbacks mapping threads victimLinks dfLinkStates
        victimFallbacks nowNs cfg) link =
      if link ∈ victimLinks then
        electLinkVillain mapping threads dfLinkStates victimFallbacks nowNs cfg link
      else none := by
  have empty : getFlat (List.replicate (min dfLinkStates.length maxDomains)
      (none : Option LinkContender)) link = none := by
    simp [getFlat, List.getElem?_replicate_of_lt within]
  have seated := seatVillains_getFlat
    (electLinkVillain mapping threads dfLinkStates victimFallbacks nowNs cfg) victimLinks.toList
    (by simpa using within : link < (List.replicate (min dfLinkStates.length maxDomains)
      (none : Option LinkContender)).length)
  rw [empty, Option.or_none] at seated
  refine seated.trans ?_
  simp only [TreeSet.mem_toList]

end CSwitch.Villain
