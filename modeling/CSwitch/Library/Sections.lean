import Mathlib

/-! Lists that are cut into sections. Some elements open a section, and the others
belong to the last one that was opened; what is done with an element depends on its
section. A rearrangement keeps the elements that open sections where they are and
permutes the others within their section. -/

set_option autoImplicit false

namespace CSwitch.Library

variable {α β σ : Type}

def consBody (element : α) : List (σ × List α) → List (σ × List α)
  | [] => []
  | (head, body) :: rest => (head, element :: body) :: rest

def sections (opens : α → Option σ) (current : σ) : List α → List (σ × List α)
  | [] => [(current, [])]
  | element :: rest =>
      match opens element with
      | some next => (current, []) :: sections opens next rest
      | none => consBody element (sections opens current rest)

/-- One element: it opens a section, or acts in the current one. -/
def sectionStep (opens : α → Option σ) (act : σ → β → α → β) (state : σ × β) (element : α) :
    σ × β :=
  match opens element with
  | some next => (next, state.2)
  | none => (state.1, act state.1 state.2 element)

def foldSections (act : σ → β → α → β) (out : β) (parts : List (σ × List α)) : β :=
  parts.foldl (fun out part => part.2.foldl (act part.1) out) out

inductive Rearranged (opens : α → Option σ) : List α → List α → Prop where
  | last {body other : List α} (closed : ∀ element ∈ body, opens element = none)
      (perm : body.Perm other) : Rearranged opens body other
  | cons {body other rest otherRest : List α} {head : α} {next : σ}
      (closed : ∀ element ∈ body, opens element = none) (perm : body.Perm other)
      (opened : opens head = some next) (more : Rearranged opens rest otherRest) :
      Rearranged opens (body ++ head :: rest) (other ++ head :: otherRest)

section Cut

variable {opens : α → Option σ} {current : σ}

theorem sections_cons_of_none {element : α} {elements : List α} (closed : opens element = none) :
    sections opens current (element :: elements) =
      consBody element (sections opens current elements) := by
  rw [sections, closed]

theorem sections_cons_of_some {element : α} {elements : List α} {next : σ}
    (opened : opens element = some next) :
    sections opens current (element :: elements) = (current, []) :: sections opens next elements := by
  rw [sections, opened]

theorem sections_of_closed {body : List α} (closed : ∀ element ∈ body, opens element = none) :
    sections opens current body = [(current, body)] := by
  induction body with
  | nil => rfl
  | cons element rest ih =>
      rw [sections_cons_of_none (closed element List.mem_cons_self),
        ih fun other later => closed other (List.mem_cons_of_mem _ later)]
      rfl

theorem sections_append {body rest : List α} {head : α} {next : σ}
    (closed : ∀ element ∈ body, opens element = none) (opened : opens head = some next) :
    sections opens current (body ++ head :: rest) =
      (current, body) :: sections opens next rest := by
  induction body with
  | nil => exact sections_cons_of_some opened
  | cons element body ih =>
      rw [List.cons_append, sections_cons_of_none (closed element List.mem_cons_self),
        ih fun other later => closed other (List.mem_cons_of_mem _ later)]
      rfl

variable (opens current) in
theorem sections_head (elements : List α) :
    ∃ body rest, sections opens current elements = (current, body) :: rest := by
  induction elements with
  | nil => exact ⟨[], [], rfl⟩
  | cons element elements ih =>
      cases opened : opens element with
      | some next => exact ⟨[], _, sections_cons_of_some opened⟩
      | none =>
          obtain ⟨body, rest, split⟩ := ih
          exact ⟨element :: body, rest, by rw [sections_cons_of_none opened, split]; rfl⟩

/-- Element by element or section by section, the outcome is the same. -/
theorem foldl_sectionStep (act : σ → β → α → β) (elements : List α) (out : β) :
    (elements.foldl (sectionStep opens act) (current, out)).2 =
      foldSections act out (sections opens current elements) := by
  induction elements generalizing current out with
  | nil => rfl
  | cons element elements ih =>
      cases opened : opens element with
      | some next =>
          rw [List.foldl_cons, sectionStep, opened, sections_cons_of_some opened]
          exact ih out
      | none =>
          rw [List.foldl_cons, sectionStep, opened, sections_cons_of_none opened]
          refine (ih (act current out element)).trans ?_
          obtain ⟨body, rest, split⟩ := sections_head opens current elements
          rw [split]
          rfl

theorem Rearranged.sections {elements others : List α} (rearranged : Rearranged opens elements others)
    (current : σ) :
    List.Forall₂ (fun part other => part.1 = other.1 ∧ part.2.Perm other.2)
      (Library.sections opens current elements) (Library.sections opens current others) := by
  induction rearranged generalizing current with
  | last closed perm =>
      have otherClosed := fun element member => closed element (perm.mem_iff.mpr member)
      rw [sections_of_closed closed, sections_of_closed otherClosed]
      exact .cons ⟨rfl, perm⟩ .nil
  | cons closed perm opened _ ih =>
      have otherClosed := fun element member => closed element (perm.mem_iff.mpr member)
      rw [sections_append closed opened, sections_append otherClosed opened]
      exact .cons ⟨rfl, perm⟩ (ih _)

theorem heads_eq {parts others : List (σ × List α)}
    (same : List.Forall₂ (fun part other => part.1 = other.1 ∧ part.2.Perm other.2) parts others) :
    parts.map Prod.fst = others.map Prod.fst := by
  induction same with
  | nil => rfl
  | cons head _ ih => rw [List.map_cons, List.map_cons, head.1, ih]

theorem exists_body_perm {parts others : List (σ × List α)} {head : σ} {body : List α}
    (same : List.Forall₂ (fun part other => part.1 = other.1 ∧ part.2.Perm other.2) parts others)
    (member : (head, body) ∈ parts) : ∃ other, (head, other) ∈ others ∧ body.Perm other := by
  induction same with
  | nil => cases member
  | @cons part other _ _ first _ ih =>
      cases List.mem_cons.mp member with
      | inl here =>
          subst here
          exact ⟨other.2, List.mem_cons.mpr (.inl (Prod.ext first.1 rfl)), first.2⟩
      | inr later =>
          obtain ⟨found, listed, perm⟩ := ih later
          exact ⟨found, List.mem_cons_of_mem _ listed, perm⟩

theorem Rearranged.perm {elements others : List α} (rearranged : Rearranged opens elements others) :
    elements.Perm others := by
  induction rearranged with
  | last _ perm => exact perm
  | cons _ perm _ _ ih => exact perm.append (ih.cons _)

end Cut

/-! ## Reading one section -/

/-- What is read of the outcome changes in one section only. -/
structure SectionRead {ρ : Type} (act : σ → β → α → β) (read : β → ρ) (target : σ)
    (run : ρ → α → ρ) : Prop where
  own : ∀ out element, read (act target out element) = run (read out) element
  frame : ∀ head out element, head ≠ target → read (act head out element) = read out

section Read

variable {ρ : Type} {act : σ → β → α → β} {read : β → ρ} {target : σ} {run : ρ → α → ρ}
  {parts : List (σ × List α)} {out : β}

theorem SectionRead.foldl_own (reads : SectionRead act read target run) (body : List α) (out : β) :
    read (body.foldl (act target) out) = body.foldl run (read out) := by
  induction body generalizing out with
  | nil => rfl
  | cons element body ih => rw [List.foldl_cons, ih, reads.own, List.foldl_cons]

theorem SectionRead.foldl_frame (reads : SectionRead act read target run) {head : σ}
    (apart : head ≠ target) (body : List α) (out : β) :
    read (body.foldl (act head) out) = read out := by
  induction body generalizing out with
  | nil => rfl
  | cons element body ih => rw [List.foldl_cons, ih, reads.frame head out element apart]

theorem SectionRead.of_not_mem (reads : SectionRead act read target run)
    (absent : target ∉ parts.map Prod.fst) : read (foldSections act out parts) = read out := by
  induction parts generalizing out with
  | nil => rfl
  | cons part rest ih =>
      rw [List.map_cons, List.mem_cons, not_or] at absent
      refine (ih absent.2).trans ?_
      exact reads.foldl_frame (fun same => absent.1 same.symm) part.2 out

/-- A section that is opened once has one body. -/
theorem body_unique [DecidableEq σ] (once : (parts.map Prod.fst).count target ≤ 1)
    {body other : List α} (member : (target, body) ∈ parts) (otherMember : (target, other) ∈ parts) :
    body = other := by
  obtain ⟨before, after, rfl⟩ := List.append_of_mem member
  rw [List.map_append, List.map_cons, List.count_append, List.count_cons_self] at once
  have notBefore : target ∉ before.map Prod.fst := List.count_eq_zero.mp (by omega)
  have notAfter : target ∉ after.map Prod.fst := List.count_eq_zero.mp (by omega)
  cases List.mem_append.mp otherMember with
  | inl earlier => exact absurd (List.mem_map_of_mem (f := Prod.fst) earlier) notBefore
  | inr later =>
      cases List.mem_cons.mp later with
      | inl same => exact (Prod.mk.inj same).2.symm
      | inr rest => exact absurd (List.mem_map_of_mem (f := Prod.fst) rest) notAfter

/-- The bodies of a section that is opened once are rearrangements of each other. -/
theorem body_perm [DecidableEq σ] {others : List (σ × List α)} {body other : List α}
    (same : List.Forall₂ (fun part other => part.1 = other.1 ∧ part.2.Perm other.2) parts others)
    (once : (parts.map Prod.fst).count target ≤ 1) (member : (target, body) ∈ parts)
    (otherMember : (target, other) ∈ others) : body.Perm other := by
  obtain ⟨found, listed, perm⟩ := exists_body_perm same member
  rw [heads_eq same] at once
  obtain rfl := body_unique once listed otherMember
  exact perm

theorem SectionRead.of_mem [DecidableEq σ] (reads : SectionRead act read target run)
    (once : (parts.map Prod.fst).count target ≤ 1) {body : List α} (member : (target, body) ∈ parts) :
    read (foldSections act out parts) = body.foldl run (read out) := by
  obtain ⟨before, after, rfl⟩ := List.append_of_mem member
  rw [List.map_append, List.map_cons, List.count_append, List.count_cons_self] at once
  have notBefore : target ∉ before.map Prod.fst := List.count_eq_zero.mp (by omega)
  have notAfter : target ∉ after.map Prod.fst := List.count_eq_zero.mp (by omega)
  rw [foldSections, List.foldl_append, List.foldl_cons]
  refine (reads.of_not_mem notAfter).trans ?_
  rw [reads.foldl_own]
  exact congrArg (fun start => body.foldl run start) (reads.of_not_mem notBefore)

/-- The reading of two lists with rearranged bodies. -/
theorem SectionRead.eq_iff [DecidableEq σ] (reads : SectionRead act read target run)
    {others : List (σ × List α)}
    (same : List.Forall₂ (fun part other => part.1 = other.1 ∧ part.2.Perm other.2) parts others)
    (once : (parts.map Prod.fst).count target ≤ 1) (out : β) :
    read (foldSections act out parts) = read (foldSections act out others) ↔
      ∀ body other, (target, body) ∈ parts → (target, other) ∈ others → body.Perm other →
        body.foldl run (read out) = other.foldl run (read out) := by
  have otherOnce := heads_eq same ▸ once
  constructor
  · intro equal body other member otherMember _
    rw [reads.of_mem once member, reads.of_mem otherOnce otherMember] at equal
    exact equal
  · intro bodies
    by_cases opened : target ∈ parts.map Prod.fst
    · obtain ⟨⟨head, body⟩, member, isHead⟩ := List.mem_map.mp opened
      obtain rfl : head = target := isHead
      obtain ⟨other, otherMember, perm⟩ := exists_body_perm same member
      rw [reads.of_mem once member, reads.of_mem otherOnce otherMember]
      exact bodies body other member otherMember perm
    · rw [reads.of_not_mem opened, reads.of_not_mem (heads_eq same ▸ opened)]

end Read

end CSwitch.Library
