import CardPress.Proofs.Files.Names
import CardPress.Proofs.Loading
import Mathlib.Data.List.Basic
import Mathlib.Data.List.Count
import Mathlib.Data.List.Induction
import Mathlib.Logic.Function.Basic

/-! Loads that share one store. Looking up and keeping are one step each, and decoding lies between them, so
that several loads of one name may all find nothing and decode its file; only the first picture is kept, and
all of them come to that one. -/
namespace CardPress

variable {ι κ : Type}

namespace Named

variable {m : Named κ} {name : String}

theorem entries_put_of_get? (h : m.get? name = none) (value : κ) :
    (m.put name value).entries = m.entries ++ [(name, value)] := by
  refine entries_put (fun hmem => ?_) value
  rw [mem_names, contains, h] at hmem
  cases hmem

end Named

namespace ImageStore

/-- How far a load has come. -/
inductive Phase (κ : Type) where
  | waiting
  | missed
  | holding (copy : κ)
  | done (result : Except Failure (Option κ))

namespace Phase

def isDone : Phase κ → Bool
  | done _ => true
  | _ => false

/-- How many steps lie behind a load at least. -/
def rank : Phase κ → Nat
  | waiting => 0
  | missed => 1
  | holding _ => 2
  | done _ => 3

end Phase

/-- The store and the loads that share it. The loads that have decoded a file are noted, the last first. -/
structure Sharing (ι κ : Type) where
  store : ImageStore κ := {}
  phase : ι → Phase κ := fun _ => .waiting
  decoders : List ι := []

namespace Sharing

variable [DecidableEq ι]

/-- A load comes to another phase. -/
def enter (s : Sharing ι κ) (i : ι) (phase : Phase κ) : Sharing ι κ :=
  { s with phase := Function.update s.phase i phase }

@[simp] theorem enter_store (s : Sharing ι κ) (i : ι) (phase : Phase κ) : (s.enter i phase).store = s.store :=
  rfl

@[simp] theorem enter_decoders (s : Sharing ι κ) (i : ι) (phase : Phase κ) :
    (s.enter i phase).decoders = s.decoders := rfl

@[simp] theorem enter_phase_self (s : Sharing ι κ) (i : ι) (phase : Phase κ) :
    (s.enter i phase).phase i = phase := by
  simp only [enter, Function.update_self]

theorem enter_phase_other {i j : ι} (h : j ≠ i) (s : Sharing ι κ) (phase : Phase κ) :
    (s.enter i phase).phase j = s.phase j := by
  simp only [enter, Function.update_of_ne h]

end Sharing

/-- What is loaded: every load has a name, and the copy that it makes of a picture is its own. -/
structure Workload (ι κ : Type) where
  photos : Photos
  paths : Named String
  name : ι → String
  copy : ι → Picture → κ

namespace Workload

variable [DecidableEq ι] (w : Workload ι κ)

/-- The next step of a load: it looks its name up, it decodes the file, or it hands its copy in. -/
def step (s : Sharing ι κ) (i : ι) : Sharing ι κ :=
  match s.phase i with
  | .waiting =>
    match s.store.lookUp (w.name i) with
    | some kept => s.enter i (.done (.ok (some kept)))
    | none => s.enter i .missed
  | .missed =>
    match w.paths.get? (w.name i) with
    | none => s.enter i (.done (.ok none))
    | some path =>
      match decode w.photos (w.name i) path with
      | .error f => s.enter i (.done (.error f))
      | .ok p => { s.enter i (.holding (w.copy i p)) with decoders := i :: s.decoders }
  | .holding copy =>
    let (kept, store) := s.store.keep (w.name i) copy
    { s.enter i (.done (.ok (some kept))) with store }
  | .done _ => s

/-- The steps of loads, in any order. -/
def run (schedule : List ι) : Sharing ι κ := schedule.foldl w.step {}

/-- The name leads to a file, and this is what comes of decoding it. -/
def Decodes (name : String) (p : Picture) : Prop :=
  ∃ path photo, w.paths.get? name = some path ∧ w.photos path = some photo ∧ p = photo.decoded

/-- What a load of a name comes to: nothing, a failure, or what is kept for the name. -/
inductive Answers (store : ImageStore κ) (name : String) : Except Failure (Option κ) → Prop where
  | unregistered (h : w.paths.get? name = none) : Answers store name (.ok none)
  | undecodable {path : String} (h : w.paths.get? name = some path) (hphoto : w.photos path = none) :
      Answers store name (.error (.problem (.render (.undecodableImage name path))))
  | kept {i : ι} {p : Picture} (hname : w.name i = name) (h : w.Decodes name p)
      (hkept : store.lookUp name = some (w.copy i p)) : Answers store name (.ok (some (w.copy i p)))

variable {w} {s t : Sharing ι κ} {i j : ι} {name : String} {schedule more : List ι}

/-- All that a step can do. -/
inductive Moves (w : Workload ι κ) (s : Sharing ι κ) (i : ι) : Sharing ι κ → Prop where
  | found {kept : κ} (phase : s.phase i = .waiting) (h : s.store.lookUp (w.name i) = some kept) :
      Moves w s i (s.enter i (.done (.ok (some kept))))
  | missed (phase : s.phase i = .waiting) (h : s.store.lookUp (w.name i) = none) :
      Moves w s i (s.enter i .missed)
  | unregistered (phase : s.phase i = .missed) (h : w.paths.get? (w.name i) = none) :
      Moves w s i (s.enter i (.done (.ok none)))
  | undecodable {path : String} (phase : s.phase i = .missed) (h : w.paths.get? (w.name i) = some path)
      (hphoto : w.photos path = none) :
      Moves w s i (s.enter i (.done (.error (.problem (.render (.undecodableImage (w.name i) path))))))
  | decoded {p : Picture} (phase : s.phase i = .missed) (h : w.Decodes (w.name i) p) :
      Moves w s i { s.enter i (.holding (w.copy i p)) with decoders := i :: s.decoders }
  | first {copy : κ} (phase : s.phase i = .holding copy) (h : s.store.lookUp (w.name i) = none) :
      Moves w s i { s.enter i (.done (.ok (some copy))) with
        store := ⟨s.store.images.put (w.name i) copy, s.store.decodeCount + 1⟩ }
  | late {copy kept : κ} (phase : s.phase i = .holding copy) (h : s.store.lookUp (w.name i) = some kept) :
      Moves w s i { s.enter i (.done (.ok (some kept))) with
        store := ⟨s.store.images, s.store.decodeCount + 1⟩ }
  | finished {result : Except Failure (Option κ)} (phase : s.phase i = .done result) : Moves w s i s

/-- What is kept stays as it is, and in its place. -/
theorem Moves.entries (h : Moves w s i t) : s.store.images.entries <+: t.store.images.entries := by
  cases h with
  | first phase h =>
    rw [Named.entries_put_of_get? h]
    exact List.prefix_append _ _
  | _ => exact List.prefix_rfl

theorem Moves.lookUp (h : Moves w s i t) {kept : κ} (hkept : s.store.lookUp name = some kept) :
    t.store.lookUp name = some kept := by
  obtain ⟨new, hnew⟩ := h.entries
  unfold ImageStore.lookUp Named.get? at hkept ⊢
  rw [← hnew, List.lookup_append, hkept, Option.some_or]

omit [DecidableEq ι] in
theorem Answers.mono {r : Except Failure (Option κ)} (h : w.Answers s.store name r)
    (hkept : ∀ kept, s.store.lookUp name = some kept → t.store.lookUp name = some kept) :
    w.Answers t.store name r := by
  cases h with
  | unregistered h => exact .unregistered h
  | undecodable h hphoto => exact .undecodable h hphoto
  | kept hname h hstored => exact .kept hname h (hkept _ hstored)

/-! Every load comes to an end. -/

theorem Moves.rank (h : Moves w s i t) : min 3 ((s.phase i).rank + 1) ≤ (t.phase i).rank := by
  cases h <;> simp_all [Phase.rank]

/-- All that is kept or about to be kept comes from the file of its name, and the loads that are over have
what is kept. -/
structure Sound (w : Workload ι κ) (s : Sharing ι κ) : Prop where
  kept : ∀ name kept, s.store.lookUp name = some kept →
    ∃ i p, w.name i = name ∧ w.Decodes name p ∧ kept = w.copy i p
  held : ∀ i copy, s.phase i = .holding copy → ∃ p, w.Decodes (w.name i) p ∧ copy = w.copy i p
  answered : ∀ i r, s.phase i = .done r → w.Answers s.store (w.name i) r

/-- The loads that decoded a file hold a copy or have handed it in; those that have are counted. -/
structure Counted (s : Sharing ι κ) : Prop where
  nodup : s.decoders.Nodup
  decoded : ∀ i ∈ s.decoders, 2 ≤ (s.phase i).rank
  held : ∀ i copy, s.phase i = .holding copy → i ∈ s.decoders
  count : s.store.decodeCount = s.decoders.countP fun i => (s.phase i).isDone
  size : s.store.images.size ≤ s.store.decodeCount

theorem countP_enter_of_notMem {is : List ι} (h : i ∉ is) (s : Sharing ι κ) (phase : Phase κ) :
    is.countP (fun j => ((s.enter i phase).phase j).isDone) = is.countP fun j => (s.phase j).isDone := by
  refine List.countP_congr fun j hj => ?_
  rw [Sharing.enter_phase_other (ne_of_mem_of_not_mem hj h)]

/-- A load that has not decoded a file comes to a phase in which it still has not. -/
theorem Counted.enter (hs : Counted s) (hi : i ∉ s.decoders) {phase : Phase κ}
    (hphase : ∀ copy, phase ≠ .holding copy) : Counted (s.enter i phase) := by
  refine ⟨hs.nodup, ?decoded, ?held, ?count, hs.size⟩
  case decoded =>
    intro j hj
    rw [Sharing.enter_phase_other (ne_of_mem_of_not_mem hj hi)]
    exact hs.decoded j hj
  case held =>
    intro j copy hheld
    by_cases hne : j = i
    · subst hne
      rw [Sharing.enter_phase_self] at hheld
      exact absurd hheld (hphase copy)
    · rw [Sharing.enter_phase_other hne] at hheld
      exact hs.held j copy hheld
  case count =>
    rw [Sharing.enter_decoders, countP_enter_of_notMem hi]
    exact hs.count

theorem Counted.decode (hs : Counted s) (hi : i ∉ s.decoders) (copy : κ) :
    Counted { s.enter i (.holding copy) with decoders := i :: s.decoders } := by
  refine ⟨hs.nodup.cons hi, ?decoded, ?held, ?count, hs.size⟩
  case decoded =>
    intro j hj
    dsimp only
    by_cases hne : j = i
    · subst hne
      rw [Sharing.enter_phase_self]
      exact Nat.le_refl 2
    · rw [Sharing.enter_phase_other hne]
      exact hs.decoded j ((List.mem_cons.mp hj).resolve_left hne)
  case held =>
    intro j copy' hheld
    by_cases hne : j = i
    · exact List.mem_cons.mpr (.inl hne)
    · dsimp only at hheld
      rw [Sharing.enter_phase_other hne] at hheld
      exact List.mem_cons.mpr (.inr (hs.held j copy' hheld))
  case count =>
    rw [List.countP_cons_of_neg (by simp [Phase.isDone]), countP_enter_of_notMem hi]
    exact hs.count

/-- Three steps in a row are a load that nothing interrupts. -/
theorem steps_eq_load {w : Workload ι Picture} {s : Sharing ι Picture} (hcopy : ∀ p, w.copy i p = p)
    (hphase : s.phase i = .waiting) :
    ([i, i, i].foldl w.step s).store = (load w.photos w.paths (w.name i) s.store).2 ∧
      ([i, i, i].foldl w.step s).phase i = .done (load w.photos w.paths (w.name i) s.store).1 := by
  unfold load lookUp
  simp only [List.foldl_cons, List.foldl_nil]
  cases hkept : s.store.images.get? (w.name i) with
  | some p => simp [step, lookUp, hphase, hkept]
  | none =>
    cases hpath : w.paths.get? (w.name i) with
    | none => simp [step, lookUp, hphase, hkept, hpath]
    | some path =>
      cases hdecode : decode w.photos (w.name i) path with
      | error f => simp [step, lookUp, hphase, hkept, hpath, hdecode]
      | ok p => simp [step, lookUp, keep, hphase, hkept, hpath, hdecode, hcopy]

end Workload

end ImageStore

end CardPress
