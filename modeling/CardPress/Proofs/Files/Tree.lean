import CardPress.Files.Tree
import Mathlib.Data.List.Nodup

/-! Trees of files: what writing changes of them, and the order in which folders are listed. -/
namespace CardPress

namespace Path

theorem resolveFrom_concat (above p : Path) {part : String} (h : part ≠ "..") :
    resolveFrom above (p ++ [part]) = resolveFrom above p ++ [part] := by
  induction p generalizing above with
  | nil => simp [resolveFrom, h]
  | cons first rest ih =>
    rw [List.cons_append]
    unfold resolveFrom
    split
    · exact ih _
    · cases above with
      | nil => exact ih _
      | cons last before =>
        dsimp only
        split
        · exact ih _
        · split
          · exact ih _
          · exact ih _

/-- What lies directly in a folder lies there however the way to the folder is written. -/
theorem resolve_concat (p : Path) {part : String} (h : part ≠ "..") :
    (p ++ [part]).resolve = p.resolve ++ [part] := resolveFrom_concat [] p h

/-- There is something before an ending. -/
theorem stem_ne_empty {p : Path} (h : p.ending ≠ "") : p.stem ≠ "" := by
  unfold ending splitName at h
  unfold stem splitName
  dsimp only at h ⊢
  split at h
  · exact absurd rfl h
  next hparted =>
    rw [if_neg hparted]
    intro hempty
    simp only [Bool.or_eq_true, decide_eq_true_eq, not_or, Nat.not_lt] at hparted
    have hlength := congrArg String.length hempty
    rw [String.length_ofList, List.length_reverse, List.length_tail] at hlength
    have hshort := hparted.2
    simp only [String.length_empty] at hlength
    omega

end Path

/-! Names that stand once, and entries under them. -/

theorem nodup_eraseDups (xs : List String) : xs.eraseDups.Nodup := by
  induction hlength : xs.length using Nat.strongRecOn generalizing xs with
  | _ n ih =>
    cases xs with
    | nil => exact List.nodup_nil
    | cons x xs =>
      have hle := List.length_filter_le (fun y => !y == x) xs
      rw [List.eraseDups_cons, List.nodup_cons, List.mem_eraseDups]
      refine ⟨by simp, ih _ ?_ _ rfl⟩
      rw [List.length_cons] at hlength
      omega

theorem lookup_filter {κ β : Type} [BEq κ] [LawfulBEq κ] (p : κ → Bool) (entries : List (κ × β)) (key : κ) :
    (entries.filter fun e => p e.1).lookup key = if p key then entries.lookup key else none := by
  induction entries with
  | nil => simp
  | cons e rest ih =>
    obtain ⟨other, value⟩ := e
    rw [List.filter_cons, List.lookup_cons]
    by_cases hkey : key = other
    · subst hkey
      by_cases hp : p key = true
      · rw [if_pos hp, if_pos hp, List.lookup_cons, BEq.rfl]
      · rw [if_neg hp, if_neg hp, ih, if_neg hp]
    · rw [beq_false_of_ne hkey, ← ih]
      split
      · rw [List.lookup_cons, beq_false_of_ne hkey]
      · rfl

namespace FileTree

variable {t t' : FileTree} {p q : Path} {content : FileContent} {files more : List (Path × FileContent)}

theorem file?_putFile (t : FileTree) (p q : Path) (content : FileContent) :
    (t.putFile p content).file? q = if q.resolve = p.resolve then some content else t.file? q := by
  unfold file? putFile
  dsimp only
  rw [List.lookup_append, lookup_filter (· != p.resolve)]
  by_cases hq : q.resolve = p.resolve
  · simp [hq]
  · simp [hq, List.lookup_cons, beq_false_of_ne hq]

theorem makeFolder_cases (t : FileTree) (p : Path) :
    (∃ made, t.makeFolder p = .ok made ∧ made.files = t.files) ∨
      ∃ fault, t.makeFolder p = .error (.fault fault) := by
  unfold makeFolder
  dsimp only
  split
  · exact .inr ⟨_, rfl⟩
  · split
    · exact .inr ⟨_, rfl⟩
    · split
      · exact .inr ⟨_, rfl⟩
      · refine .inl ⟨_, rfl, ?_⟩
        split <;> rfl

/-- A file is written, or nothing is and that is a fault. -/
theorem write_cases (t : FileTree) (p : Path) (content : FileContent) :
    ((t.write p content).1 = .ok () ∧
        (t.write p content).2.files = (t.putFile p content).files) ∨
      ∃ fault, (t.write p content).1 = .error (.fault fault) := by
  unfold write
  obtain ⟨made, hmade, hfiles⟩ | ⟨fault, hmade⟩ := makeFolder_cases t p.parent
  · rw [hmade]
    dsimp only
    split
    · exact .inr ⟨_, rfl⟩
    · split
      · exact .inr ⟨_, rfl⟩
      · refine .inl ⟨rfl, ?_⟩
        unfold putFile
        rw [hfiles]
  · rw [hmade]
    exact .inr ⟨fault, rfl⟩

/-- Nothing that was written is lost, and nothing else has changed. -/
structure Holds (t : FileTree) (files : List (Path × FileContent)) (t' : FileTree) : Prop where
  apart : (files.map fun f => f.1.resolve).Nodup
  written : ∀ f ∈ files, t'.file? f.1 = some f.2
  unchanged : ∀ p, p.resolve ∉ files.map (fun f => f.1.resolve) → t'.file? p = t.file? p

theorem Holds.refl (t : FileTree) : Holds t [] t :=
  ⟨List.nodup_nil, List.forall_mem_nil _, fun _ _ => rfl⟩

theorem Holds.put (h : t'.files = (t.putFile p content).files) : Holds t [(p, content)] t' := by
  have hread (q : Path) : t'.file? q =
      if q.resolve = p.resolve then some content else t.file? q := by
    rw [← file?_putFile, file?, h]
    rfl
  refine ⟨List.pairwise_singleton ..,  fun f hf => ?_, fun q hq => ?_⟩
  · obtain rfl := List.mem_singleton.mp hf
    rw [hread, if_pos rfl]
  · rw [hread, if_neg fun hqp => hq (List.mem_singleton.mpr hqp)]

/-- What is written later does not touch what was written before if it goes to other paths. -/
theorem Holds.append {t'' : FileTree} (h : Holds t files t') (h' : Holds t' more t'')
    (hnodup : ((files ++ more).map fun f => f.1.resolve).Nodup) : Holds t (files ++ more) t'' := by
  rw [List.map_append] at hnodup
  refine ⟨by rwa [List.map_append], fun f hf => ?_, fun q hq => ?_⟩
  · rcases List.mem_append.mp hf with hf | hf
    · have hearlier : f.1.resolve ∈ files.map fun f => f.1.resolve :=
        List.mem_map_of_mem (f := fun f : Path × FileContent => f.1.resolve) hf
      rw [h'.unchanged f.1 fun hlater => (List.nodup_append.mp hnodup).2.2 _ hearlier _ hlater rfl]
      exact h.written f hf
    · exact h'.written f hf
  · rw [List.map_append, List.mem_append, not_or] at hq
    rw [h'.unchanged q hq.2, h.unchanged q hq.1]

/-! Folders are listed in order of names. -/

theorem insert_perm (p : Path) (ps : List Path) : (insert p ps).Perm (p :: ps) := by
  induction ps with
  | nil => exact .refl _
  | cons q rest ih =>
    rw [insert]
    split
    · exact (ih.cons q).trans (.swap p q rest)
    · exact .refl _

theorem sorted_perm (ps : List Path) : (sorted ps).Perm ps := by
  induction ps with
  | nil => exact .refl _
  | cons p rest ih => exact (insert_perm p _).trans (ih.cons p)

theorem insert_pairwise {ps : List Path} (h : ps.Pairwise fun q r => ¬ r < q) (p : Path) :
    (insert p ps).Pairwise fun q r => ¬ r < q := by
  induction ps with
  | nil => exact List.pairwise_singleton ..
  | cons q rest ih =>
    obtain ⟨hle, hrest⟩ := List.pairwise_cons.mp h
    rw [insert]
    split
    next hlt =>
      refine List.pairwise_cons.mpr ⟨fun r hr => ?_, ih hrest⟩
      obtain rfl | hr := List.mem_cons.mp ((insert_perm p rest).mem_iff.mp hr)
      · exact List.lt_asymm hlt
      · exact hle r hr
    next hnlt =>
      refine List.pairwise_cons.mpr ⟨List.forall_mem_cons.mpr ⟨hnlt, fun r hr => ?_⟩, h⟩
      exact List.le_trans hnlt (hle r hr)

theorem sorted_pairwise (ps : List Path) : (sorted ps).Pairwise fun p q => ¬ q < p := by
  induction ps with
  | nil => exact .nil
  | cons p rest ih => exact insert_pairwise ih p

/-- What stands directly in a folder is listed in order of names, each once. -/
theorem children_pairwise (t : FileTree) (folder : Path) :
    (t.children folder).Pairwise fun p q => p.name < q.name := by
  unfold children
  dsimp only
  let names := ((t.paths.filter (isBelow folder.resolve)).filterMap fun p =>
    p[folder.resolve.length]?).eraseDups
  have hname (name : String) : Path.name (folder ++ [name]) = name := List.getLastD_concat
  have hnodup : (sorted (names.map fun name => folder ++ [name])).Nodup := by
    refine (sorted_perm _).nodup_iff.mpr ((nodup_eraseDups _).map fun a b h => ?_)
    rw [← hname a, h, hname]
  have hmem {p : Path} (hp : p ∈ sorted (names.map fun name => folder ++ [name])) :
      ∃ name, folder ++ [name] = p :=
    let ⟨name, _, h⟩ := List.mem_map.mp ((sorted_perm _).mem_iff.mp hp)
    ⟨name, h⟩
  refine ((sorted_pairwise _).and hnodup).imp_of_mem fun hp hq ⟨hle, hne⟩ => ?_
  obtain ⟨a, rfl⟩ := hmem hp
  obtain ⟨b, rfl⟩ := hmem hq
  rw [hname, hname]
  refine Std.lt_of_le_of_ne (fun hlt => hle (List.append_left_lt (.rel hlt))) fun hab => hne ?_
  rw [hab]

end FileTree

end CardPress
