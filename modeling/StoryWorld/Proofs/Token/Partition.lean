import Mathlib.Data.List.Chain
import StoryWorld.Proofs.Token.Spelling

/-!
# Tokens as a partition of the text

Cutting loses nothing: a text is its tokens, as they are written, with gaps of blanks and comments
around them (`Tiles`). A mode holds the characters that were read and belong to no token yet, and
each step either holds one more or settles what it held (`Mode.Holds.reads_step`), so that the whole
text is tiled, or what precedes a quote that nothing closes (`Lexing.cut_ofText`).
-/

namespace StoryWorld

open Mode (byteLength byteLength_nil byteLength_cons byteLength_append)

/-! ## Gaps -/

namespace Text

/-- Blanks and comments, where a comment runs from a hash to the end of its line. The characters
`after` follow; if there are none, the last comment needs no newline. -/
inductive Gap (after : List Char) : List Char → Prop
  | nil : Gap after []
  | blank {c : Char} {gap : List Char} (hc : isBlank c = true) (h : Gap after gap) :
    Gap after (c :: gap)
  | comment {body gap : List Char} (hbody : '\n' ∉ body) (h : Gap after gap) :
    Gap after ('#' :: (body ++ '\n' :: gap))
  | lastComment {body : List Char} (hbody : '\n' ∉ body) (hafter : after = []) :
    Gap after ('#' :: body)

/-- Characters that leave neither a quoted text nor a comment open. -/
inductive Outside : List Char → Prop
  | nil : Outside []
  | plain {c : Char} {cs : List Char} (hquote : c ≠ '"') (hhash : c ≠ '#') (h : Outside cs) :
    Outside (c :: cs)
  | comment {body cs : List Char} (hbody : '\n' ∉ body) (h : Outside cs) :
    Outside ('#' :: (body ++ '\n' :: cs))
  | quoted {body cs : List Char} (hbody : '"' ∉ body) (h : Outside cs) :
    Outside ('"' :: (body ++ '"' :: cs))

theorem ne_quote_hash {p : Char → Bool} (hp : p '"' = false ∧ p '#' = false) {c : Char}
    (hc : p c = true) : c ≠ '"' ∧ c ≠ '#' := by
  constructor
  · rintro rfl
    exact absurd hc (by simp [hp.1])
  · rintro rfl
    exact absurd hc (by simp [hp.2])

theorem Gap.outside {after gap cs : List Char} (h : Gap after gap) (hafter : after ≠ [])
    (hcs : Outside cs) : Outside (gap ++ cs) := by
  induction h with
  | nil => exact hcs
  | blank hc _ ih =>
    have hne := ne_quote_hash (by decide) hc
    exact .plain hne.1 hne.2 ih
  | comment hbody _ ih => simpa using Outside.comment hbody ih
  | lastComment _ hnil => exact absurd hnil hafter

theorem Outside.append_plain {ps cs : List Char} (hps : ∀ c ∈ ps, c ≠ '"' ∧ c ≠ '#')
    (hcs : Outside cs) : Outside (ps ++ cs) := by
  induction ps with
  | nil => exact hcs
  | cons c ps ih =>
    rw [List.forall_mem_cons] at hps
    exact .plain hps.1.1 hps.1.2 (ih hps.2)

end Text

namespace Token

theorem Spellable.shown_ne_nil {t : Token} (h : t.Spellable) : t.shown.toList ≠ [] := by
  cases t with
  | word text => exact fun hnil => h.1 (String.toList_eq_nil_iff.1 hnil)
  | quoted text => simp [shown]
  | punct c => simp [shown]

theorem Spellable.outside {t : Token} (h : t.Spellable) {cs : List Char} (hcs : Text.Outside cs) :
    Text.Outside (t.shown.toList ++ cs) := by
  cases t with
  | word text => exact .append_plain (fun c hc => Text.ne_quote_hash (by decide) (h.2 c hc)) hcs
  | quoted text => simpa [shown] using Text.Outside.quoted h hcs
  | punct c => simpa [shown] using Text.Outside.plain h.2.2.1 h.2.1 hcs

/-- Whether a token may end before the given characters: a word goes on as far as it can. -/
def EndsBefore (t : Token) (cs : List Char) : Prop :=
  ∀ w, t = .word w → ∀ c ∈ cs.head?, Text.isWordChar c = false

theorem EndsBefore.quoted (text : String) (cs : List Char) : (Token.quoted text).EndsBefore cs := by
  intro w hw
  cases hw

theorem EndsBefore.punct (c : Char) (cs : List Char) : (Token.punct c).EndsBefore cs := by
  intro w hw
  cases hw

theorem EndsBefore.nil (t : Token) : t.EndsBefore [] := by
  intro w _ c hc
  cases hc

end Token

/-! ## Tilings -/

/-- The characters from byte `o` on are the given tokens with gaps around them, where the
characters `after` follow. -/
inductive Tiles (after : List Char) : Nat → List Char → List Lexeme → Prop
  | gap {o : Nat} {gap : List Char} (hgap : Text.Gap after gap) : Tiles after o gap []
  | token {o : Nat} {gap rest : List Char} {t : Token} {ls : List Lexeme}
    (hgap : Text.Gap (t.shown.toList ++ (rest ++ after)) gap) (ht : t.Spellable)
    (hend : t.EndsBefore (rest ++ after))
    (h : Tiles after (o + byteLength gap + byteLength t.shown.toList) rest ls) :
    Tiles after o (gap ++ (t.shown.toList ++ rest))
      (⟨t, ⟨o + byteLength gap, o + byteLength gap + byteLength t.shown.toList⟩⟩ :: ls)

/-- The characters from byte `o` on are tiled as a whole, or up to a quote that no other follows. -/
inductive Cut (o : Nat) (cs : List Char) : Lexing → Prop
  | whole {ls : List Lexeme} (h : Tiles [] o cs ls) : Cut o cs ⟨ls, none⟩
  | upTo {pre post : List Char} {ls : List Lexeme} (hcs : cs = pre ++ '"' :: post)
    (hpost : '"' ∉ post) (h : Tiles ('"' :: post) o pre ls) :
    Cut o cs ⟨ls, some (.unterminatedQuote (o + byteLength pre))⟩

theorem Tiles.append_gap {after cs gap : List Char} {o : Nat} {ls : List Lexeme}
    (hgap : ∀ {after cs}, Text.Gap after cs → Text.Gap after (gap ++ cs))
    (h : Tiles after (o + byteLength gap) cs ls) : Tiles after o (gap ++ cs) ls := by
  cases h with
  | gap h => exact .gap (hgap h)
  | @token _ inner rest t ls h ht hend hrest =>
    have hstart : o + byteLength (gap ++ inner) = o + byteLength gap + byteLength inner := by
      rw [byteLength_append, Nat.add_assoc]
    rw [← List.append_assoc, ← hstart]
    rw [← hstart] at hrest
    exact .token (hgap h) ht hend hrest

namespace Cut

variable {o : Nat} {cs : List Char} {x : Lexing}

theorem append_gap {gap : List Char}
    (hgap : ∀ {after cs}, Text.Gap after cs → Text.Gap after (gap ++ cs))
    (h : Cut (o + byteLength gap) cs x) : Cut o (gap ++ cs) x := by
  cases h with
  | whole h => exact .whole (h.append_gap hgap)
  | @upTo pre post ls hcs hpost h =>
    have hstart : o + byteLength gap + byteLength pre = o + byteLength (gap ++ pre) := by
      rw [byteLength_append, Nat.add_assoc]
    rw [hstart]
    exact .upTo (by rw [hcs, List.append_assoc]) hpost (h.append_gap hgap)

theorem token {t : Token} (ht : t.Spellable) (hend : t.EndsBefore cs)
    (h : Cut (o + byteLength t.shown.toList) cs x) : Cut o (t.shown.toList ++ cs)
      ⟨⟨t, ⟨o, o + byteLength t.shown.toList⟩⟩ :: x.lexemes, x.error⟩ := by
  cases h with
  | whole h =>
    rw [← List.append_nil cs] at hend
    exact .whole (.token .nil ht hend h)
  | @upTo pre post ls hcs hpost h =>
    have hstart : o + byteLength t.shown.toList + byteLength pre =
        o + byteLength (t.shown.toList ++ pre) := by
      rw [byteLength_append, Nat.add_assoc]
    rw [hstart]
    rw [hcs] at hend
    exact .upTo (by rw [hcs, List.append_assoc]) hpost (.token .nil ht hend h)

end Cut

/-! ## What a mode holds -/

namespace Mode

/-- The characters that a mode holds, from a byte on, which belong to no token yet. -/
inductive Holds : Mode → Nat → List Char → Prop
  | between {b : Nat} : Holds between b []
  | comment {b : Nat} {body : List Char} (hbody : '\n' ∉ body) : Holds comment b ('#' :: body)
  | word {b : Nat} {text : String} (h : (Token.word text).Spellable) :
    Holds (word b text) b text.toList
  | quoted {b : Nat} {text : String} (h : (Token.quoted text).Spellable) :
    Holds (quoted b text) b ('"' :: text.toList)

/-- Reading `cs` from byte `b` on gives `r`: a mode that holds the last of these characters, and
tokens for the others. However those held and the rest of the text are cut, all is cut in the same
way behind these tokens. -/
def Reads (b : Nat) (cs : List Char) (r : Mode × List Lexeme) : Prop :=
  ∃ b' held, r.1.Holds b' held ∧ b' + byteLength held = b + byteLength cs ∧
    ∀ {ds x}, Cut b' (held ++ ds) x → Cut b (cs ++ ds) ⟨r.2 ++ x.lexemes, x.error⟩

variable {m : Mode} {b : Nat} {held : List Char}

theorem Holds.reads (h : m.Holds b held) : Reads b held (m, []) :=
  ⟨b, held, h, rfl, id⟩

/-- Characters behind a gap are read as they are without it. -/
theorem Reads.append_gap {gap cs : List Char} {r : Mode × List Lexeme}
    (hgap : ∀ {after cs}, Text.Gap after cs → Text.Gap after (gap ++ cs))
    (h : Reads (b + byteLength gap) cs r) : Reads b (gap ++ cs) r := by
  obtain ⟨b', held, hheld, hlength, hcut⟩ := h
  refine ⟨b', held, hheld, ?_, fun {ds x} hx => ?_⟩
  · rw [hlength, byteLength_append, Nat.add_assoc]
  · rw [List.append_assoc]
    exact (hcut hx).append_gap hgap

/-- Characters behind a token are read as they are without it, if it ends before them. -/
theorem Reads.append_token {cs : List Char} {r : Mode × List Lexeme} {t : Token}
    (ht : t.Spellable) (hend : ∀ ds, t.EndsBefore (cs ++ ds))
    (h : Reads (b + byteLength t.shown.toList) cs r) :
    Reads b (t.shown.toList ++ cs) (r.1, ⟨t, ⟨b, b + byteLength t.shown.toList⟩⟩ :: r.2) := by
  obtain ⟨b', held, hheld, hlength, hcut⟩ := h
  refine ⟨b', held, hheld, ?_, fun {ds x} hx => ?_⟩
  · rw [hlength, byteLength_append, Nat.add_assoc]
  · rw [List.append_assoc]
    exact (hcut hx).token ht (hend ds)

theorem Reads.gap {gap : List Char}
    (hgap : ∀ {after cs}, Text.Gap after cs → Text.Gap after (gap ++ cs)) :
    Reads b gap (between, []) := by
  simpa using Holds.between.reads.append_gap (b := b) hgap

theorem Reads.token {t : Token} (ht : t.Spellable) (hend : ∀ ds, t.EndsBefore ds) :
    Reads b t.shown.toList (between, [⟨t, ⟨b, b + byteLength t.shown.toList⟩⟩]) := by
  simpa using Holds.between.reads.append_token (b := b) ht fun ds => hend ([] ++ ds)

theorem reads_enter (o : Nat) (c : Char) : Reads o [c] (enter o c) := by
  unfold enter
  split
  · next hb => exact .gap (.blank hb)
  split
  · next hh =>
    subst hh
    exact (Holds.comment List.not_mem_nil).reads
  split
  · next hq =>
    subst hq
    have hopen : Holds (quoted o "") o ['"'] := .quoted List.not_mem_nil
    exact hopen.reads
  split
  · next hw =>
    have hword : (Token.word (String.singleton c)).Spellable := by simp [Token.Spellable, hw]
    simpa using (Holds.word (b := o) hword).reads
  · next hb hh hq hw =>
    have hpunct : (Token.punct c).Spellable :=
      ⟨Bool.eq_false_iff.2 hb, hh, hq, Bool.eq_false_iff.2 hw⟩
    simpa [Token.shown] using Reads.token (b := o) hpunct (Token.EndsBefore.punct c)

/-- One step: a character is held too, or what is held settles as a gap or a token. -/
theorem Holds.reads_step (h : m.Holds b held) (c : Char) :
    Reads b (held ++ [c]) (m.step (b + byteLength held) c) := by
  cases h with
  | between => exact reads_enter b c
  | @comment _ body hbody =>
    by_cases hc : c = '\n'
    · subst hc
      have hgap {after cs : List Char} (h : Text.Gap after cs) :
          Text.Gap after ('#' :: body ++ ['\n'] ++ cs) := by
        simpa using Text.Gap.comment hbody h
      exact .gap hgap
    · have hbody' : '\n' ∉ body ++ [c] := by simpa [hbody] using Ne.symm hc
      simpa [step, hc] using (Holds.comment (b := b) hbody').reads
  | @word _ text hword =>
    by_cases hc : Text.isWordChar c
    · have hword' : (Token.word (text.push c)).Spellable :=
        ⟨by simp, by simpa [or_imp, forall_and, hc] using hword.2⟩
      simpa [step, hc] using (Holds.word (b := b) hword').reads
    · have hend (ds : List Char) : (Token.word text).EndsBefore ([c] ++ ds) := by
        intro w _ d hd
        simpa [← Option.some.inj hd] using hc
      simp only [step, if_neg hc]
      exact (reads_enter _ c).append_token hword hend
  | @quoted _ text hquoted =>
    by_cases hc : c = '"'
    · subst hc
      have htoken := Reads.token (b := b) hquoted (Token.EndsBefore.quoted text)
      have hsize : '"'.utf8Size = 1 := rfl
      simpa [step, Token.shown, hsize, Nat.add_assoc] using htoken
    · have hquoted' : (Token.quoted (text.push c)).Spellable := by
        simpa [Token.Spellable] using ⟨hquoted, Ne.symm hc⟩
      simpa [step, hc] using (Holds.quoted (b := b) hquoted').reads

/-- A run: what the last step says of the rest goes back through the steps before it. -/
theorem Holds.reads_scan (h : m.Holds b held) (cs : List Char) :
    Reads b (held ++ cs) (m.scan (b + byteLength held) cs) := by
  induction cs generalizing m b held with
  | nil => simpa [scan] using h.reads
  | cons c cs ih =>
    obtain ⟨b₁, held₁, hheld₁, hlength₁, hcut₁⟩ := h.reads_step c
    have hrest := ih hheld₁
    rw [hlength₁, byteLength_append, ← Nat.add_assoc] at hrest
    obtain ⟨b₂, held₂, hheld₂, hlength₂, hcut₂⟩ := hrest
    refine ⟨b₂, held₂, hheld₂, ?_, fun {ds x} hx => ?_⟩
    · simp only [byteLength_append, byteLength_cons, byteLength_nil] at hlength₁ hlength₂ ⊢
      omega
    · have hboth := hcut₂ hx
      rw [List.append_assoc] at hboth
      simpa [scan] using hcut₁ hboth

/-- What is held when the text ends settles as a gap or a token, unless it is an open quote. -/
theorem Holds.cut_endLine (h : m.Holds b held) :
    Cut b held ⟨(m.endLine (b + byteLength held)).2,
      (m.endLine (b + byteLength held)).1.failure?⟩ := by
  cases h with
  | between => exact .whole (.gap .nil)
  | comment hbody => exact .whole (.gap (.lastComment hbody rfl))
  | @word _ text hword =>
    have hnone : Cut (b + byteLength text.toList) [] ⟨[], none⟩ := .whole (.gap .nil)
    simpa [Token.shown, endLine, failure?] using hnone.token hword (.nil _)
  | quoted hquoted => exact .upTo rfl hquoted (.gap .nil)

/-- Modes outside of quoted texts and comments. -/
def IsOutside : Mode → Prop
  | between | word .. => True
  | comment | quoted .. => False

theorem isOutside_enter {c : Char} (hquote : c ≠ '"') (hhash : c ≠ '#') (o : Nat) :
    (enter o c).1.IsOutside := by
  unfold enter
  split
  · trivial
  split
  · trivial
  · trivial

theorem IsOutside.step {c : Char} (hm : m.IsOutside) (hquote : c ≠ '"') (hhash : c ≠ '#')
    (o : Nat) : (m.step o c).1.IsOutside := by
  cases m with
  | between => exact isOutside_enter hquote hhash o
  | word start text =>
    by_cases hc : Text.isWordChar c
    · simp only [Mode.step, if_pos hc]
      trivial
    · simp only [Mode.step, if_neg hc]
      exact isOutside_enter hquote hhash o
  | comment | quoted => exact absurd hm id

/-- A word that ends leaves what comes then to be read as between tokens. -/
theorem IsOutside.step_of_not_wordChar {c : Char} (hm : m.IsOutside)
    (hc : Text.isWordChar c = false) (o : Nat) : (m.step o c).1 = (enter o c).1 := by
  cases m with
  | between => rfl
  | word start text => simp [Mode.step, hc]
  | comment | quoted => exact absurd hm id

theorem scan_comment {body : List Char} (hbody : '\n' ∉ body) (o : Nat) :
    comment.scan o body = (comment, []) := by
  induction body generalizing o with
  | nil => rfl
  | cons c body ih =>
    rw [List.mem_cons, not_or] at hbody
    simp only [scan, Mode.step, if_neg (Ne.symm hbody.1), ih hbody.2, List.nil_append]

theorem IsOutside.scan {cs : List Char} (hcs : Text.Outside cs) (hm : m.IsOutside) (o : Nat) :
    (m.scan o cs).1.IsOutside := by
  induction hcs generalizing m o with
  | nil => exact hm
  | plain hquote hhash _ ih => exact ih (hm.step hquote hhash o) _
  | @comment body cs hbody _ ih =>
    have hopen : (m.step o '#').1 = .comment := hm.step_of_not_wordChar (by decide) o
    simp only [Mode.scan, scan_append, hopen, scan_comment hbody]
    exact ih (m := between) trivial _
  | @quoted body cs hbody _ ih =>
    have hopen : (m.step o '"').1 = .quoted o "" := hm.step_of_not_wordChar (by decide) o
    simp only [Mode.scan, scan_append, hopen, scan_quoted hbody]
    exact ih (m := between) trivial _

/-- An outside quote holds what is behind it, if no other follows. -/
theorem scan_open_quote {pre post : List Char} (hpre : Text.Outside pre) (hpost : '"' ∉ post)
    (o : Nat) : (between.scan o (pre ++ '"' :: post)).1 =
      quoted (o + byteLength pre) (String.ofList post) := by
  have hopen : ((between.scan o pre).1.step (o + byteLength pre) '"').1 =
      quoted (o + byteLength pre) "" :=
    (IsOutside.scan (m := between) hpre trivial o).step_of_not_wordChar (by decide) _
  simp only [scan_append, scan, hopen, scan_quoted hpost, String.empty_append]

end Mode

namespace Lexing

theorem cut_ofText (text : String) : Cut 0 text.toList (ofText text) := by
  have hscan := Mode.Holds.between.reads_scan (b := 0) text.toList
  obtain ⟨b, held, hheld, hlength, hcut⟩ := hscan
  -- nothing comes behind what is held last
  have hend := hheld.cut_endLine
  rw [hlength, ← List.append_nil held] at hend
  simpa [ofText, Mode.scanLine, Mode.byteLength_toList] using hcut hend

/-- An outside quote that no other follows is the error. -/
theorem error_of_outside {text : String} {pre post : List Char}
    (htext : text.toList = pre ++ '"' :: post) (hpre : Text.Outside pre) (hpost : '"' ∉ post) :
    (ofText text).error = some (.unterminatedQuote (byteLength pre)) := by
  simp [ofText, Mode.scanLine, htext, Mode.scan_open_quote hpre hpost, Mode.endLine, Mode.failure?]

end Lexing

theorem Tiles.outside {after cs : List Char} {o : Nat} {ls : List Lexeme} (h : Tiles after o cs ls)
    (hafter : after ≠ []) : Text.Outside cs := by
  induction h with
  | gap hgap => simpa using hgap.outside hafter .nil
  | token hgap ht _ _ ih => exact hgap.outside (by simp [ht.shown_ne_nil]) (ht.outside ih)

/-! ## Partitions -/

/-- Whether a span is that of `piece` in a text, between `before` and `after`. -/
structure Span.Selects (s : Span) (text before piece after : List Char) : Prop where
  text_eq : text = before ++ piece ++ after
  start_eq : s.start = byteLength before
  stop_eq : s.stop = byteLength before + byteLength piece

/-- The spans before, between and after tokens, from byte `start` up to byte `stop`. -/
def gapSpans (start stop : Nat) : List Lexeme → List Span
  | [] => [⟨start, stop⟩]
  | l :: ls => ⟨start, l.span.start⟩ :: gapSpans l.span.stop stop ls

/-- The tokens of a text from byte `start` up to byte `stop`: each stands where its span says as it
is written, in order and apart from each other, and nothing but gaps is around them. -/
structure Partition (text : List Char) (start stop : Nat) (ls : List Lexeme) : Prop where
  spellable : ∀ l ∈ ls, l.token.Spellable
  token : ∀ l ∈ ls, ∃ before after, l.span.Selects text before l.token.shown.toList after
  nonempty : ∀ l ∈ ls, l.span.start < l.span.stop
  inside : ∀ l ∈ ls, start ≤ l.span.start ∧ l.span.stop ≤ stop
  ordered : ls.Pairwise fun l l' => l.span.stop ≤ l'.span.start
  gaps : ∀ s ∈ gapSpans start stop ls, ∃ before gap after,
    s.Selects text before gap after ∧ Text.Gap after gap
  apart : ls.IsChain fun l l' =>
    ∀ w w', l.token = .word w → l'.token = .word w' → l.span.stop < l'.span.start

theorem Mode.byteLength_pos {cs : List Char} (h : cs ≠ []) : 0 < byteLength cs := by
  obtain ⟨c, cs, rfl⟩ := List.exists_cons_of_ne_nil h
  have hc := c.utf8Size_pos
  rw [byteLength_cons]
  omega

namespace Tiles

variable {after cs : List Char} {o : Nat} {l : Lexeme} {ls : List Lexeme}

/-- A word stands behind a gap, where no word could go on. -/
theorem lt_start_of_word {w : String} (h : Tiles after o cs (l :: ls)) (hword : l.token = .word w)
    (hcs : ∀ c ∈ (cs ++ after).head?, Text.isWordChar c = false) : o < l.span.start := by
  cases h with
  | @token _ gap rest t ls hgap ht hend hrest =>
    obtain rfl : t = .word w := hword
    cases gap with
    | nil =>
      obtain ⟨c, w', hw⟩ := List.exists_cons_of_ne_nil ht.shown_ne_nil
      have hc : Text.isWordChar c = true := ht.2 c (show c ∈ (Token.word w).shown.toList by simp [hw])
      exact absurd (hcs c (by simp [hw])) (by simp [hc])
    | cons c gap =>
      have hgap := Mode.byteLength_pos (List.cons_ne_nil c gap)
      simp only
      omega

theorem partition {text : List Char} (before : List Char) (h : Tiles after o cs ls)
    (htext : text = before ++ (cs ++ after)) (ho : o = byteLength before) :
    Partition text o (o + byteLength cs) ls := by
  induction h generalizing before with
  | @gap o gap hgap =>
    refine ⟨by simp, by simp, by simp, by simp, .nil, ?_, .nil⟩
    simp only [gapSpans, List.forall_mem_singleton]
    exact ⟨before, gap, after, ⟨by simp [htext], ho, by simp [ho]⟩, hgap⟩
  | @token o gap rest t ls hgap ht hend h ih =>
    -- for the rest of the tokens, this one and its gap are part of what stands before
    have hrest := ih (before ++ gap ++ t.shown.toList) (by simp [htext])
      (by simp [ho, Nat.add_assoc])
    have hstop : o + byteLength gap + byteLength t.shown.toList + byteLength rest =
        o + byteLength (gap ++ (t.shown.toList ++ rest)) := by
      simp [Nat.add_assoc]
    rw [hstop] at hrest
    have hpos := Mode.byteLength_pos ht.shown_ne_nil
    refine
      { spellable := List.forall_mem_cons.2 ⟨ht, hrest.spellable⟩
        token := List.forall_mem_cons.2 ⟨⟨before ++ gap, rest ++ after, ?_⟩, hrest.token⟩
        nonempty := List.forall_mem_cons.2 ⟨?_, hrest.nonempty⟩
        inside := List.forall_mem_cons.2 ⟨⟨?_, ?_⟩, fun l hl => ⟨?_, (hrest.inside l hl).2⟩⟩
        ordered := List.pairwise_cons.2 ⟨fun l hl => (hrest.inside l hl).1, hrest.ordered⟩
        gaps := List.forall_mem_cons.2 ⟨⟨before, gap, _, ?_, hgap⟩, hrest.gaps⟩
        apart := ?_ }
    · exact ⟨by simp [htext], by simp [ho], by simp [ho]⟩
    · simp only
      omega
    · simp only
      omega
    · simp only [← hstop]
      omega
    · have hstart := (hrest.inside l hl).1
      omega
    · exact ⟨by simp [htext], ho, by simp [ho]⟩
    · cases ls with
      | nil => exact .singleton _
      | cons l' ls =>
        exact List.isChain_cons_cons.2
          ⟨fun w w' hw hw' => h.lt_start_of_word hw' (hend w hw), hrest.apart⟩

end Tiles

namespace Lexing

/-- Where the tokens of a text end: before its error, if there is one. -/
def reach (text : String) : Nat :=
  match (ofText text).error with
  | none => text.utf8ByteSize
  | some e => e.span.start

/-- The tokens of a text partition it up to its end, or up to a quote outside of quoted texts and
comments that no other follows. There is no other error. -/
theorem partition_ofText (text : String) :
    Partition text.toList 0 (reach text) (ofText text).lexemes ∧
      ∀ e, (ofText text).error = some e ↔ ∃ pre post, e = .unterminatedQuote (byteLength pre) ∧
        e.span.Selects text.toList pre ['"'] post ∧ Text.Outside pre ∧ '"' ∉ post := by
  have hcut := cut_ofText text
  refine ⟨?_, fun e => ⟨fun he => ?_, ?_⟩⟩
  · rcases hx : ofText text with ⟨ls, error⟩
    rw [hx] at hcut
    cases hcut with
    | whole h =>
      have hpartition : Partition text.toList 0 (0 + byteLength text.toList) ls :=
        h.partition [] (by simp) rfl
      simpa [reach, hx, Mode.byteLength_toList] using hpartition
    | @upTo pre post _ htext hpost h =>
      have hpartition : Partition text.toList 0 (0 + byteLength pre) ls :=
        h.partition [] (by simp [htext]) rfl
      simpa [reach, hx, LexError.span] using hpartition
  · rcases hx : ofText text with ⟨ls, error⟩
    rw [hx] at hcut he
    cases hcut with
    | whole => cases he
    | @upTo pre post _ htext hpost h =>
      obtain rfl := Option.some.inj he
      rw [Nat.zero_add]
      exact ⟨pre, post, rfl, ⟨by simp [htext], rfl, rfl⟩, h.outside (by simp), hpost⟩
  · rintro ⟨pre, post, rfl, hspan, hpre, hpost⟩
    exact error_of_outside (by simpa using hspan.text_eq) hpre hpost

example : ofText "é#\"\n\"#\"b\"" =
    ⟨[⟨.punct 'é', ⟨0, 2⟩⟩, ⟨.quoted "#", ⟨5, 8⟩⟩, ⟨.word "b", ⟨8, 9⟩⟩],
      some (.unterminatedQuote 9)⟩ := by decide

end Lexing

end StoryWorld
