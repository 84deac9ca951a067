import StoryWorld.Proofs.Tree.Steps

/-!
# The grammar of source trees

`IsFile` is the grammar of the tokens of a tree. It is ambiguous: an equals sign is a fragment as
well, so every assignment is an item too. `ReadsObjects` is the reading that the second token of
each member decides, and says which tree lexemes make. Every derivable list of tokens has such a
reading (`isFile_iff`).
-/

namespace StoryWorld

/-- A token other than a brace and a comma. -/
def Token.IsFragment (t : Token) : Prop := t ≠ openBrace ∧ t ≠ closeBrace ∧ t ≠ comma

theorem Token.isFragment_equals : equals.IsFragment := ⟨by decide, by decide, by decide⟩

theorem Token.fragment?_eq_some_iff {t : Token} {text : String} :
    t.fragment? = some text ↔ t.IsFragment ∧ t.text = text := by
  constructor
  · intro h
    exact ⟨not_delimiter_of_fragment? h, (text_of_fragment? h).symm⟩
  · rintro ⟨⟨hopen, hclose, hcomma⟩, rfl⟩
    rw [fragment?, if_neg]
    rintro (rfl | rfl | rfl)
    · exact hopen rfl
    · exact hclose rfl
    · exact hcomma rfl

theorem Token.IsFragment.fragment?_eq {t : Token} (h : t.IsFragment) :
    t.fragment? = some t.text := fragment?_eq_some_iff.2 ⟨h, rfl⟩

namespace TreeGrammar

/-! ## Tokens -/

mutual
/-- `object = fragment '{' member* '}'` -/
inductive IsObject : List Token → Prop
  | braces (hname : name.IsFragment) (hbody : IsMembers body) :
    IsObject (name :: .openBrace :: (body ++ [.closeBrace]))

/-- `member = object ',' | fragment '=' fragment* ',' | fragment fragment* ','` -/
inductive IsMember : List Token → Prop
  | container (hobject : IsObject ts) : IsMember (ts ++ [.comma])
  | assignment (hkey : key.IsFragment) (hvalue : ∀ t ∈ value, t.IsFragment) :
    IsMember (key :: .equals :: (value ++ [.comma]))
  | item (hhead : head.IsFragment) (hrest : ∀ t ∈ rest, t.IsFragment) :
    IsMember (head :: (rest ++ [.comma]))

/-- `member*` -/
inductive IsMembers : List Token → Prop
  | nil : IsMembers []
  | snoc (hinit : IsMembers ts) (hlast : IsMember us) : IsMembers (ts ++ us)
end

/-- `file = object*` -/
inductive IsFile : List Token → Prop
  | nil : IsFile []
  | snoc (hinit : IsFile ts) (hlast : IsObject us) : IsFile (ts ++ us)

/-! ## Lexemes and what they make -/

/-- The texts of lexemes, joined. -/
def joinedText (ls : List Lexeme) : String := String.join (ls.map (·.token.text))

@[simp] theorem joinedText_nil : joinedText [] = "" := rfl

@[simp] theorem joinedText_cons (l : Lexeme) (ls : List Lexeme) :
    joinedText (l :: ls) = l.token.text ++ joinedText ls := by
  simp [joinedText, String.join_cons]

theorem joinedText_concat (ls : List Lexeme) (l : Lexeme) :
    joinedText (ls ++ [l]) = joinedText ls ++ l.token.text := by
  simp [joinedText, String.join_append]

mutual
/-- Lexemes that make a container. -/
inductive ReadsObject : List Lexeme → Container → Prop
  | braces (hname : name.token.IsFragment) (hopening : opening.token = .openBrace)
      (hbody : ReadsMembers body members) (hclosing : closing.token = .closeBrace) :
    ReadsObject (name :: opening :: (body ++ [closing]))
      ⟨name.token.text, members, name.span.through closing.span, name.span⟩

/-- Lexemes that make a member. The second one is an opening brace in a container, an equals sign
in an assignment, and neither in an item. -/
inductive ReadsMember : List Lexeme → Member → Prop
  | container (hobject : ReadsObject ls c) (hcomma : comma.token = .comma) :
    ReadsMember (ls ++ [comma]) (.ofContainer c)
  | assignment (hkey : key.token.IsFragment) (hequals : equals.token = .equals)
      (hvalue : ∀ l ∈ value, l.token.IsFragment) (hcomma : comma.token = .comma) :
    ReadsMember (key :: equals :: (value ++ [comma]))
      (.assignment key.token.text (joinedText value) (key.span.through comma.span))
  | item (hhead : head.token.IsFragment) (hsecond : ∀ l ∈ rest.head?, l.token ≠ .equals)
      (hrest : ∀ l ∈ rest, l.token.IsFragment) (hcomma : comma.token = .comma) :
    ReadsMember (head :: (rest ++ [comma]))
      (.item (head.token.text ++ joinedText rest) (head.span.through comma.span))

/-- Lexemes that make members one after the other. -/
inductive ReadsMembers : List Lexeme → List Member → Prop
  | nil : ReadsMembers [] []
  | snoc (hinit : ReadsMembers ls members) (hlast : ReadsMember ms m) :
    ReadsMembers (ls ++ ms) (members ++ [m])
end

/-- Lexemes that make the containers of a tree. -/
inductive ReadsObjects : List Lexeme → List Container → Prop
  | nil : ReadsObjects [] []
  | snoc (hinit : ReadsObjects ls objects) (hlast : ReadsObject ms c) :
    ReadsObjects (ls ++ ms) (objects ++ [c])

/-! ## What can be read is derivable -/

private theorem forall_fragments {ls : List Lexeme} :
    (∀ t ∈ ls.map (·.token), t.IsFragment) ↔ ∀ l ∈ ls, l.token.IsFragment :=
  List.forall_mem_map

mutual
theorem ReadsObject.isObject : ReadsObject ls c → IsObject (ls.map (·.token))
  | .braces hname hopening hbody hclosing => by
    rw [List.map_cons, List.map_cons, List.map_append, List.map_singleton, hopening, hclosing]
    exact .braces hname hbody.isMembers

theorem ReadsMember.isMember : ReadsMember ls m → IsMember (ls.map (·.token))
  | .container hobject hcomma => by
    rw [List.map_append, List.map_singleton, hcomma]
    exact .container hobject.isObject
  | .assignment hkey hequals hvalue hcomma => by
    rw [List.map_cons, List.map_cons, List.map_append, List.map_singleton, hequals, hcomma]
    exact .assignment hkey (forall_fragments.2 hvalue)
  | .item hhead _ hrest hcomma => by
    rw [List.map_cons, List.map_append, List.map_singleton, hcomma]
    exact .item hhead (forall_fragments.2 hrest)

theorem ReadsMembers.isMembers : ReadsMembers ls members → IsMembers (ls.map (·.token))
  | .nil => .nil
  | .snoc hinit hlast => by
    rw [List.map_append]
    exact .snoc hinit.isMembers hlast.isMember
end

theorem ReadsObjects.isFile (h : ReadsObjects ls objects) : IsFile (ls.map (·.token)) := by
  induction h with
  | nil => exact .nil
  | snoc _ hlast ih =>
    rw [List.map_append]
    exact .snoc ih hlast.isObject

/-! ## What is derivable can be read -/

mutual
theorem IsObject.exists_reads : IsObject ts → ∀ ls : List Lexeme, ls.map (·.token) = ts →
    ∃ c, ReadsObject ls c
  | .braces hname hbody, ls, hls => by
    obtain ⟨name, ls, rfl, rfl, htail⟩ := List.map_eq_cons_iff.1 hls
    obtain ⟨opening, ls, rfl, hopening, htail⟩ := List.map_eq_cons_iff.1 htail
    obtain ⟨body, ls, rfl, hmap, htail⟩ := List.map_eq_append_iff.1 htail
    obtain ⟨closing, rfl, hclosing⟩ := List.map_eq_singleton_iff.1 htail
    obtain ⟨members, hmembers⟩ := hbody.exists_reads body hmap
    exact ⟨_, .braces hname hopening hmembers hclosing⟩

theorem IsMember.exists_reads : IsMember ts → ∀ ls : List Lexeme, ls.map (·.token) = ts →
    ∃ m, ReadsMember ls m
  | .container hobject, ls, hls => by
    obtain ⟨object, ls, rfl, hmap, htail⟩ := List.map_eq_append_iff.1 hls
    obtain ⟨comma, rfl, hcomma⟩ := List.map_eq_singleton_iff.1 htail
    obtain ⟨c, hc⟩ := hobject.exists_reads object hmap
    exact ⟨_, .container hc hcomma⟩
  | .assignment hkey hvalue, ls, hls => by
    obtain ⟨key, ls, rfl, rfl, htail⟩ := List.map_eq_cons_iff.1 hls
    obtain ⟨equals, ls, rfl, hequals, htail⟩ := List.map_eq_cons_iff.1 htail
    obtain ⟨value, ls, rfl, rfl, hlast⟩ := List.map_eq_append_iff.1 htail
    obtain ⟨comma, rfl, hcomma⟩ := List.map_eq_singleton_iff.1 hlast
    exact ⟨_, .assignment hkey hequals (forall_fragments.1 hvalue) hcomma⟩
  | .item hhead hrest, ls, hls => by
    obtain ⟨head, ls, rfl, rfl, htail⟩ := List.map_eq_cons_iff.1 hls
    obtain ⟨rest, ls, rfl, rfl, hlast⟩ := List.map_eq_append_iff.1 htail
    obtain ⟨comma, rfl, hcomma⟩ := List.map_eq_singleton_iff.1 hlast
    have hfragments := forall_fragments.1 hrest
    -- an item whose second fragment is an equals sign is an assignment
    rcases rest with _ | ⟨second, rest⟩
    · exact ⟨_, .item hhead (by simp) hfragments hcomma⟩
    by_cases hequals : second.token = .equals
    · exact ⟨_, .assignment hhead hequals (fun l hl => hfragments l (List.mem_cons_of_mem _ hl))
        hcomma⟩
    · exact ⟨_, .item hhead (by simpa using hequals) hfragments hcomma⟩

theorem IsMembers.exists_reads : IsMembers ts → ∀ ls : List Lexeme, ls.map (·.token) = ts →
    ∃ members, ReadsMembers ls members
  | .nil, ls, hls => by
    rw [List.map_eq_nil_iff] at hls
    exact ⟨[], hls ▸ .nil⟩
  | .snoc hinit hlast, ls, hls => by
    obtain ⟨init, last, rfl, hmap, hmap'⟩ := List.map_eq_append_iff.1 hls
    obtain ⟨members, hmembers⟩ := hinit.exists_reads init hmap
    obtain ⟨m, hm⟩ := hlast.exists_reads last hmap'
    exact ⟨_, .snoc hmembers hm⟩
end

theorem IsFile.exists_reads (h : IsFile ts) (hls : ls.map (·.token) = ts) :
    ∃ objects, ReadsObjects ls objects := by
  induction h generalizing ls with
  | nil =>
    rw [List.map_eq_nil_iff] at hls
    exact ⟨[], hls ▸ .nil⟩
  | snoc _ hlast ih =>
    obtain ⟨init, last, rfl, hmap, hmap'⟩ := List.map_eq_append_iff.1 hls
    obtain ⟨objects, hobjects⟩ := ih hmap
    obtain ⟨c, hc⟩ := hlast.exists_reads last hmap'
    exact ⟨_, .snoc hobjects hc⟩

/-- The second tokens of members decide every reading and refuse none. -/
theorem isFile_iff {ls : List Lexeme} :
    IsFile (ls.map (·.token)) ↔ ∃ objects, ReadsObjects ls objects := by
  constructor
  · intro h
    exact h.exists_reads rfl
  · rintro ⟨objects, h⟩
    exact h.isFile

end TreeGrammar

end StoryWorld
