import StoryWorld.Token.LineReader

/-! Lines of encoded text. Cutting the bytes of a text after each newline byte and decoding what
stands between the cuts gives the lines of the text, since no other character is encoded with a
newline byte. -/

namespace StoryWorld

/-- The bytes that encode some characters. -/
def encodeChars (cs : List Char) : List UInt8 := cs.flatMap String.utf8EncodeChar

/-! ## Encoding -/

private theorem toList_loop (b : ByteArray) (i : Nat) (r : List UInt8) :
    ByteArray.toList.loop b i r = r.reverse ++ b.data.toList.drop i := by
  fun_induction ByteArray.toList.loop b i r with
  | case1 i r hi ih =>
    have hget : b.get! i = b.data.toList[i] := by
      simp [ByteArray.get!, getElem!_pos, ByteArray.size_data, hi]
    have hlen : i < b.data.toList.length := by simpa using hi
    rw [ih, hget, List.drop_eq_getElem_cons hlen]
    simp
  | case2 i r hi =>
    have hlen : b.data.toList.length ≤ i := by simpa using hi
    simp [List.drop_eq_nil_of_le hlen]

theorem toList_toUTF8 (s : String) : s.toUTF8.toList = encodeChars s.toList := by
  have hs : s.toUTF8 = (encodeChars s.toList).toByteArray := by
    rw [String.toUTF8_eq_toByteArray, ← String.utf8Encode_toList]; rfl
  rw [ByteArray.toList, toList_loop, hs, List.toList_data_toByteArray]
  rfl

theorem encodeChars_append (cs ds : List Char) :
    encodeChars (cs ++ ds) = encodeChars cs ++ encodeChars ds := List.flatMap_append

theorem encodeChars_flatten (lines : List (List Char)) :
    encodeChars lines.flatten = (lines.map encodeChars).flatten := by
  induction lines with
  | nil => rfl
  | cons line rest ih =>
    rw [List.flatten_cons, encodeChars_append, ih, List.map_cons, List.flatten_cons]

theorem encodeChars_ne_nil {cs : List Char} (h : cs ≠ []) : encodeChars cs ≠ [] := by
  obtain ⟨c, cs, rfl⟩ := List.exists_cons_of_ne_nil h
  exact List.append_ne_nil_of_left_ne_nil String.utf8EncodeChar_ne_nil _

/-- Encoded characters decode to themselves. -/
theorem decodeText?_encodeChars (cs : List Char) :
    decodeText? (encodeChars cs) = some (String.ofList cs) := by
  have hb : (⟨(encodeChars cs).toArray⟩ : ByteArray) = (String.ofList cs).toByteArray := by
    rw [String.toByteArray_ofList, List.utf8Encode, ← List.data_toByteArray]; rfl
  rw [decodeText?, hb, String.fromUTF8?, dif_pos (String.ofList cs).isValidUTF8]
  rfl

/-- Bytes that decode are what the text is encoded as. -/
theorem eq_encodeChars_of_decodeText? {bytes : List UInt8} {s : String}
    (h : decodeText? bytes = some s) : bytes = encodeChars s.toList := by
  have hb : s.toByteArray = ⟨bytes.toArray⟩ := by
    rw [decodeText?, String.fromUTF8?] at h
    split at h
    · exact Option.some.inj h ▸ rfl
    · cases h
  rw [← toList_toUTF8, ByteArray.toList, toList_loop, String.toUTF8_eq_toByteArray, hb]
  simp

/-- Only a newline is encoded with a newline byte. -/
theorem eq_newline_of_mem_utf8EncodeChar {c : Char} (h : 0x0A ∈ String.utf8EncodeChar c) :
    c = '\n' := by
  have hbyte : ∀ n : Nat, (0x0A : UInt8) = UInt8.ofNat n ↔ n % 256 = 10 := fun n => by
    rw [← UInt8.toNat_inj, UInt8.toNat_ofNat']; exact eq_comm
  have hv : c.val.toNat = 10 := by
    unfold String.utf8EncodeChar at h
    generalize c.val.toNat = v at h
    dsimp only at h
    -- A character of several bytes has none below 128.
    split at h
    · simp only [List.mem_singleton, hbyte] at h; omega
    split at h
    · simp only [List.mem_cons, List.not_mem_nil, or_false, hbyte] at h; omega
    split at h
    · simp only [List.mem_cons, List.not_mem_nil, or_false, hbyte] at h; omega
    · simp only [List.mem_cons, List.not_mem_nil, or_false, hbyte] at h; omega
  exact Char.ext (UInt32.toNat_inj.1 hv)

theorem notMem_encodeChars {cs : List Char} (h : '\n' ∉ cs) : 0x0A ∉ encodeChars cs := by
  intro hmem
  obtain ⟨c, hc, hbyte⟩ := List.mem_flatMap.1 hmem
  rw [eq_newline_of_mem_utf8EncodeChar hbyte] at hc
  exact h hc

/-- Encoded characters end in a newline byte only if they end in a newline. -/
theorem getLast?_of_encodeChars {cs : List Char} (h : (encodeChars cs).getLast? = some 0x0A) :
    cs.getLast? = some '\n' := by
  rcases List.eq_nil_or_concat cs with rfl | ⟨ds, c, rfl⟩
  · cases h
  · have hc : encodeChars [c] = String.utf8EncodeChar c := List.flatMap_singleton ..
    rw [List.concat_eq_append, encodeChars_append, hc, List.getLast?_append] at h
    rcases Option.or_eq_some_iff.1 h with hlast | ⟨hnil, -⟩
    · simp [eq_newline_of_mem_utf8EncodeChar (List.mem_of_getLast? hlast)]
    · exact absurd (List.getLast?_eq_none_iff.1 hnil) String.utf8EncodeChar_ne_nil

/-! ## Lines -/

/-- Lines, each with a newline at its end and none before; only the last may lack it. -/
inductive IsLines {α : Type} (newline : α) : List (List α) → Prop
  | nil : IsLines newline []
  | last {line : List α} (hne : line ≠ []) (hline : newline ∉ line) : IsLines newline [line]
  | cons {line : List α} {rest : List (List α)} (hline : newline ∉ line)
    (hrest : IsLines newline rest) : IsLines newline ((line ++ [newline]) :: rest)

namespace IsLines

variable {α : Type} {newline a : α} {line : List α} {lines rest : List (List α)}

/-- What joins the first line is part of it. -/
theorem joinFirst (h : IsLines newline (line :: rest)) (ha : a ≠ newline) :
    IsLines newline ((a :: line) :: rest) := by
  cases h with
  | last hne hline => exact .last (List.cons_ne_nil _ _) (by simp [ha.symm, hline])
  | @cons line _ hline hrest =>
    have hjoined : newline ∉ a :: line := by simp [ha.symm, hline]
    exact .cons hjoined hrest

theorem tail (h : IsLines newline (line :: rest)) : IsLines newline rest := by
  cases h with
  | last => exact .nil
  | cons _ hrest => exact hrest

/-- A line that others follow ends in a newline. -/
theorem getLast?_of_append (h : IsLines newline (lines ++ line :: rest)) :
    ∀ l ∈ lines, l.getLast? = some newline := by
  induction lines with
  | nil => exact fun _ hl => nomatch hl
  | cons first lines ih =>
    rw [List.forall_mem_cons]
    refine ⟨?_, ih h.tail⟩
    rw [List.cons_append] at h
    generalize hmore : lines ++ line :: rest = more at h
    cases h with
    | last => simp at hmore
    | cons => simp

/-- No newline is inside of a line. -/
theorem getLast?_ne_of_append {pre post : List α} (h : IsLines newline ((pre ++ post) :: rest))
    (hpost : post ≠ []) : pre.getLast? ≠ some newline := by
  intro hpre
  have hmem : newline ∈ (pre ++ post).dropLast := by
    rw [List.dropLast_append_of_ne_nil hpost]
    exact List.mem_append_left _ (List.mem_of_getLast? hpre)
  generalize pre ++ post = line at h hmem
  cases h with
  | last _ hline => exact hline (List.dropLast_subset _ hmem)
  | cons hline _ => exact hline (by simpa using hmem)

end IsLines

section

variable {α : Type} [DecidableEq α] {newline : α}

/-- Cutting loses nothing. -/
theorem flatten_cutAfter (newline : α) (as : List α) : (cutAfter newline as).flatten = as := by
  induction as with
  | nil => rfl
  | cons a as ih =>
    unfold cutAfter
    split
    · simp [ih]
    · split
      · next hl => rw [hl] at ih; simp [← ih]
      · next hl => rw [hl] at ih; simp [← ih]

theorem isLines_cutAfter (newline : α) (as : List α) : IsLines newline (cutAfter newline as) := by
  induction as with
  | nil => exact .nil
  | cons a as ih =>
    unfold cutAfter
    split
    · next ha =>
      subst ha
      exact .cons List.not_mem_nil ih
    · next ha =>
      split
      · exact .last (List.cons_ne_nil _ _) (by simpa using Ne.symm ha)
      · next hl => exact (hl ▸ ih).joinFirst ha

/-- What has no newline joins the first line of what follows. -/
theorem cutAfter_append {p : List α} (h : newline ∉ p) (hne : p ≠ []) (as : List α) :
    cutAfter newline (p ++ as) =
      match cutAfter newline as with
      | [] => [p]
      | line :: rest => (p ++ line) :: rest := by
  induction p with
  | nil => exact absurd rfl hne
  | cons a p ih =>
    have ha : a ≠ newline := fun ha => h (ha ▸ List.mem_cons_self)
    by_cases hp : p = []
    · subst hp
      rcases has : cutAfter newline as with _ | ⟨line, rest⟩
      · simp [cutAfter, ha, has]
      · simp [cutAfter, ha, has]
    · have ih := ih (fun hm => h (List.mem_cons_of_mem _ hm)) hp
      rcases has : cutAfter newline as with _ | ⟨line, rest⟩
      · simp [cutAfter, ha, ih, has]
      · simp [cutAfter, ha, ih, has]

/-- There is one way to cut a list into lines. -/
theorem cutAfter_flatten {lines : List (List α)} (h : IsLines newline lines) :
    cutAfter newline lines.flatten = lines := by
  induction h with
  | nil => rfl
  | @last line hne hline => simpa [cutAfter] using cutAfter_append hline hne []
  | @cons line rest hline _ ih =>
    have hnewline : cutAfter newline (newline :: rest.flatten) = [newline] :: rest := by
      rw [cutAfter, if_pos rfl, ih]
    by_cases hne : line = []
    · simpa [hne] using hnewline
    · simpa [hnewline] using cutAfter_append hline hne (newline :: rest.flatten)

end

/-! ## Encoded lines -/

theorem IsLines.map_encodeChars {lines : List (List Char)} (h : IsLines '\n' lines) :
    IsLines 0x0A (lines.map encodeChars) := by
  induction h with
  | nil => exact .nil
  | last hne hline => exact .last (encodeChars_ne_nil hne) (notMem_encodeChars hline)
  | @cons line rest hline _ ih =>
    have hencoded : encodeChars (line ++ ['\n']) = encodeChars line ++ [0x0A] :=
      encodeChars_append line ['\n']
    rw [List.map_cons, hencoded]
    exact .cons (notMem_encodeChars hline) ih

/-- The lines of encoded characters are their encoded lines. -/
theorem cutAfter_encodeChars (cs : List Char) :
    cutAfter 0x0A (encodeChars cs) = (cutAfter '\n' cs).map encodeChars := by
  rw [← cutAfter_flatten (isLines_cutAfter '\n' cs).map_encodeChars, ← encodeChars_flatten,
    flatten_cutAfter]

end StoryWorld
