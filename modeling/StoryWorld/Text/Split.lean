/-! Cutting a text at the first place where a character stands. -/

namespace StoryWorld.Text

/-- What stands before and after the first `c`, if there is one. -/
def splitOnce (c : Char) (s : String) : Option (String × String) :=
  match s.toList.dropWhile (· != c) with
  | [] => none
  | _ :: after => some (String.ofList (s.toList.takeWhile (· != c)), String.ofList after)

theorem notMem_iff_forall_bne {c : Char} {cs : List Char} : c ∉ cs ↔ ∀ d ∈ cs, (d != c) = true := by
  simp only [bne_iff_ne]
  exact ⟨fun h d hd heq => h (heq ▸ hd), fun h hmem => h c hmem rfl⟩

theorem splitOnce_eq_some_iff {c : Char} {s a b : String} :
    splitOnce c s = some (a, b) ↔ s.toList = a.toList ++ c :: b.toList ∧ c ∉ a.toList := by
  unfold splitOnce
  constructor
  · intro h
    have hcut := List.takeWhile_append_dropWhile (p := (· != c)) (l := s.toList)
    have hhead := List.head?_dropWhile_not (· != c) s.toList
    split at h
    · cases h
    · next d after hdrop =>
      rw [hdrop] at hcut hhead
      obtain rfl : d = c := by simpa using hhead
      cases h
      rw [String.toList_ofList, String.toList_ofList, hcut, notMem_iff_forall_bne]
      exact ⟨rfl, List.all_eq_true.1 List.all_takeWhile⟩
  · rintro ⟨hs, ha⟩
    have hpos := notMem_iff_forall_bne.1 ha
    rw [hs, List.dropWhile_append_of_pos hpos, List.takeWhile_append_of_pos hpos]
    simp

theorem splitOnce_eq_none_iff {c : Char} {s : String} : splitOnce c s = none ↔ c ∉ s.toList := by
  rw [Option.eq_none_iff_forall_ne_some]
  constructor
  · intro hnone hmem
    obtain ⟨before, after, hs, hbefore⟩ := List.eq_append_cons_of_mem hmem
    refine hnone (String.ofList before, String.ofList after) (splitOnce_eq_some_iff.2 ?_)
    rw [String.toList_ofList, String.toList_ofList]
    exact ⟨hs, hbefore⟩
  · rintro hnot ⟨before, after⟩ hsome
    have hs := (splitOnce_eq_some_iff.1 hsome).1
    exact hnot (hs ▸ List.mem_append_right _ List.mem_cons_self)

end StoryWorld.Text
