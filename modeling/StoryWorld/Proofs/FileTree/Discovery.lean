import Mathlib.Data.List.Sort
import Mathlib.Data.String.Basic
import StoryWorld.FileTree.Discovery

/-!
# What a search finds

Files and directories are told apart by their paths, the names that lead to them. A search meets
what stands at each path down to its depth, in the order of the paths, compared name by name
(`Opened.mem_walk_iff`, `Opened.increasing_walk`). So it returns the files and names the directories
where it stopped, each once and in order, unless a directory refuses to be listed
(`Opened.search_discovers`).
-/

namespace StoryWorld

namespace Entry

/-- An entry stands at a path below some entries. -/
inductive Stands : List Entry → List String → Entry → Prop
  | here {es : List Entry} {e : Entry} (h : e ∈ es) : Stands es [e.name] e
  | inside {es inner : List Entry} {n : String} {path : List String} {e : Entry}
    (h : dir n inner ∈ es) (hrest : Stands inner path e) : Stands es (n :: path) e

/-- A file stands at a path below some entries. -/
def HasFile (es : List Entry) (path : List String) (bytes : Except SystemError (List UInt8)) :
    Prop :=
  ∃ n, Stands es path (file n bytes)

/-- A directory that is closed stands at a path below some entries. -/
def HasClosed (es : List Entry) (path : List String) (e : SystemError) : Prop :=
  ∃ n, Stands es path (closed n e)

/-- A directory, closed or not, stands at a path below some entries. -/
def HasDir (es : List Entry) (path : List String) : Prop :=
  (∃ n inner, Stands es path (dir n inner)) ∨ ∃ e, HasClosed es path e

/-- Whether the entries of each directory have different names. -/
inductive Distinct : List Entry → Prop
  | intro {es : List Entry} (names : (es.map name).Nodup)
    (inside : ∀ n inner, dir n inner ∈ es → Distinct inner) : Distinct es

/-- What a search meets at an entry, with directories left to go down into `depth` levels, if it
does not go on inside. -/
def meets? (depth : Nat) : Entry → Option Find
  | file _ bytes => some (.file bytes)
  | dir _ _ => if depth = 0 then some .tooDeep else none
  | closed _ e => if depth = 0 then some .tooDeep else some (.refused e)

variable {es : List Entry} {path : List String} {e : Entry} {depth : Nat}

theorem meets?_eq_file_iff {bytes : Except SystemError (List UInt8)} :
    e.meets? depth = some (.file bytes) ↔ ∃ n, e = file n bytes := by
  cases e with
  | file n b => simp [meets?]
  | dir | closed => cases depth <;> simp [meets?]

theorem meets?_eq_tooDeep_iff : e.meets? depth = some .tooDeep ↔
    depth = 0 ∧ ((∃ n inner, e = dir n inner) ∨ ∃ refused n, e = closed n refused) := by
  cases e with
  | file => simp [meets?]
  | dir | closed => cases depth <;> simp [meets?]

theorem meets?_eq_refused_iff {refused : SystemError} :
    e.meets? depth = some (.refused refused) ↔ 0 < depth ∧ ∃ n, e = closed n refused := by
  cases e with
  | file => simp [meets?]
  | dir | closed => cases depth <;> simp [meets?]

theorem Stands.length_pos (h : Stands es path e) : 0 < path.length := by
  cases h with
  | here | inside => exact Nat.succ_pos _

/-- The path to an entry leads through directories. -/
theorem Stands.hasDir_take (h : Stands es path e) (n : Nat) (hn : n + 1 < path.length) :
    HasDir es (path.take (n + 1)) := by
  induction h generalizing n with
  | here => exact absurd hn (by simp)
  | inside hmem hrest ih =>
    rw [List.take_succ_cons]
    cases n with
    | zero => exact .inl ⟨_, _, .here hmem⟩
    | succ n =>
      rcases ih n (Nat.lt_of_succ_lt_succ hn) with ⟨_, _, hdir⟩ | ⟨_, _, hclosed⟩
      · exact .inl ⟨_, _, .inside hmem hdir⟩
      · exact .inr ⟨_, _, .inside hmem hclosed⟩

theorem findsAll_eq_map (depth : Nat) (es : List Entry) :
    findsAll depth es = es.map fun e => (e.name, e.finds depth) := by
  induction es with
  | nil => rfl
  | cons e es ih => rw [findsAll, ih, List.map_cons]

/-- A search meets something at an entry itself, or goes on inside. -/
theorem mem_finds_iff {f : Find} : (path, f) ∈ e.finds depth ↔
    (path = [] ∧ e.meets? depth = some f) ∨
      ∃ n inner d, e = dir n inner ∧ depth = d + 1 ∧ (path, f) ∈ (Opened.dir inner).walk d := by
  cases e with
  | file n bytes => simp [finds, meets?, eq_comm]
  | closed n e => cases depth <;> simp [finds, meets?, eq_comm]
  | dir n inner =>
    cases depth with
    | zero => simp [finds, meets?, eq_comm]
    | succ d =>
      have hinside : (dir n inner).finds (d + 1) = (Opened.dir inner).walk d := by
        rw [finds, Opened.walk]
      rw [hinside]
      simp [meets?]

end Entry

namespace Find

variable {found : List (String × List (List String × Find))} {path : List String}

theorem mem_ofEntries {f : Find} : (path, f) ∈ ofEntries found ↔
    ∃ n fs rest, (n, fs) ∈ found ∧ path = n :: rest ∧ (rest, f) ∈ fs := by
  simp only [ofEntries, List.mem_flatMap, List.mem_mergeSort]
  constructor
  · rintro ⟨⟨n, fs⟩, hfs, hpath⟩
    obtain ⟨⟨rest, f'⟩, hrest, heq⟩ := List.mem_map.1 hpath
    obtain ⟨rfl, rfl⟩ := Prod.mk.inj heq
    exact ⟨n, fs, rest, hfs, rfl, hrest⟩
  · rintro ⟨n, fs, rest, hfs, rfl, hrest⟩
    exact ⟨(n, fs), hfs, List.mem_map.2 ⟨(rest, f), hrest, rfl⟩⟩

theorem pairwise_mergeSort_names (hnames : (found.map (·.1)).Nodup) :
    (found.mergeSort fun a b => decide (a.1 ≤ b.1)).Pairwise fun a b => a.1 < b.1 := by
  have htrans (a b c : String × List (List String × Find)) :
      decide (a.1 ≤ b.1) = true → decide (b.1 ≤ c.1) = true → decide (a.1 ≤ c.1) = true := by
    simp only [decide_eq_true_eq]
    exact le_trans
  have htotal (a b : String × List (List String × Find)) :
      (decide (a.1 ≤ b.1) || decide (b.1 ≤ a.1)) = true := by
    simp only [Bool.or_eq_true, decide_eq_true_eq]
    exact le_total a.1 b.1
  have hne : ((found.mergeSort fun a b => decide (a.1 ≤ b.1)).map (·.1)).Nodup :=
    ((List.mergeSort_perm found _).map _).nodup_iff.2 hnames
  refine (List.pairwise_mergeSort htrans htotal found).imp₂ (fun a b hle hne => ?_)
    (List.pairwise_map.1 hne)
  exact lt_of_le_of_ne (of_decide_eq_true hle) hne

/-- What is met at entries with different names is in order if it is so at each entry. -/
theorem increasing_ofEntries (hnames : (found.map (·.1)).Nodup)
    (h : ∀ p ∈ found, p.2.Pairwise fun a b => a.1 < b.1) :
    (ofEntries found).Pairwise fun a b => a.1 < b.1 := by
  have hsorted := pairwise_mergeSort_names hnames
  simp only [ofEntries, List.pairwise_flatMap, List.pairwise_map, List.forall_mem_map,
    List.mem_mergeSort]
  refine ⟨fun p hp => ?_, hsorted.imp fun hlt a ha b hb => ?_⟩
  · exact (h p hp).imp fun hlt => List.cons_lt_cons_iff.2 (.inr ⟨rfl, hlt⟩)
  · exact List.cons_lt_cons_iff.2 (.inl hlt)

theorem file?_eq_some_iff {p : List String × Find} {bytes : Except SystemError (List UInt8)} :
    file? p = some (path, bytes) ↔ p = (path, .file bytes) := by
  obtain ⟨path', f⟩ := p
  cases f <;> simp [file?]

theorem skipped?_eq_some_iff {p : List String × Find} :
    skipped? p = some path ↔ p = (path, .tooDeep) := by
  obtain ⟨path', f⟩ := p
  cases f <;> simp [skipped?]

theorem refused?_eq_some_iff {p : List String × Find} {e : SystemError} :
    refused? p = some (path, e) ↔ p = (path, .refused e) := by
  obtain ⟨path', f⟩ := p
  cases f <;> simp [refused?]

end Find

namespace Path

theorem size_le_join (path name : String) : path.utf8ByteSize ≤ (join path name).utf8ByteSize := by
  unfold join
  split <;> simp only [String.utf8ByteSize_append] <;> omega

theorem size_le_below (path : String) (names : List String) :
    path.utf8ByteSize ≤ (below path names).utf8ByteSize := by
  induction names generalizing path with
  | nil => exact Nat.le_refl _
  | cons name names ih => exact (size_le_join path name).trans (ih (join path name))

/-- A path that can be opened leads through paths that can. -/
theorem fits_take {base : String} {path : List String} (h : fits (below base path)) (n : Nat) :
    fits (below base (path.take n)) := by
  have hbelow : below base path = below (below base (path.take n)) (path.drop n) := by
    rw [below, below, below, ← List.foldl_append, List.take_append_drop]
  rw [fits, decide_eq_true_eq, hbelow] at h
  exact decide_eq_true ((size_le_below ..).trans h)

end Path

/-- Whether a path leads to something below a directory. -/
def Path.IsBelow (path dir : List String) : Prop := ∃ n rest, path = dir ++ n :: rest

/-- What a search that goes `depth` levels down from the directory at a path finds, as far as paths
are short enough: the files in it and in its subdirectories down to that level, and the directories
one level further down, both in the order of their paths. -/
structure Found.Discovers (f : Found) (base : String) (depth : Nat) (es : List Entry) : Prop where
  mem_files : ∀ path bytes, (path, bytes) ∈ f.files ↔
    Entry.HasFile es path bytes ∧ path.length ≤ depth + 1 ∧ Path.fits (Path.below base path)
  mem_skipped : ∀ path, path ∈ f.skipped ↔
    Entry.HasDir es path ∧ path.length = depth + 1 ∧ Path.fits (Path.below base path)
  files : f.files.Pairwise fun a b => a.1 < b.1
  skipped : f.skipped.Pairwise (· < ·)

/-- A directory on the way of a search that goes `depth` levels down refuses to be listed. -/
def Entry.Bars (es : List Entry) (base : String) (depth : Nat) (path : List String)
    (e : SystemError) : Prop :=
  HasClosed es path e ∧ path.length ≤ depth ∧ Path.fits (Path.below base path)

namespace Opened

open Entry

variable {es : List Entry} {path : List String} {f : Find} {depth : Nat}

/-! ## What a search meets -/

theorem mem_walk : (path, f) ∈ (dir es).walk depth ↔
    ∃ e ∈ es, ∃ rest, path = e.name :: rest ∧ (rest, f) ∈ e.finds depth := by
  rw [walk, Find.mem_ofEntries, findsAll_eq_map]
  simp only [List.mem_map, Prod.mk.injEq]
  constructor
  · rintro ⟨_, _, rest, ⟨e, he, rfl, rfl⟩, hpath, hrest⟩
    exact ⟨e, he, rest, hpath, hrest⟩
  · rintro ⟨e, he, rest, hpath, hrest⟩
    exact ⟨_, _, rest, ⟨e, he, rfl, rfl⟩, hpath, hrest⟩

/-- A search meets what stands at a path, with the levels left that the path does not use up. -/
theorem mem_walk_iff : (path, f) ∈ (dir es).walk depth ↔
    ∃ e, Stands es path e ∧ path.length ≤ depth + 1 ∧
      e.meets? (depth + 1 - path.length) = some f := by
  constructor
  · intro h
    induction depth using Nat.strong_induction_on generalizing es path with
    | _ depth ih =>
      obtain ⟨e, he, rest, rfl, hrest⟩ := mem_walk.1 h
      rcases mem_finds_iff.1 hrest with ⟨rfl, hfind⟩ | ⟨n, inner, d, rfl, rfl, hinside⟩
      · exact ⟨e, .here he, Nat.succ_le_succ (Nat.zero_le _), hfind⟩
      · obtain ⟨e', hstands, hlength, hfind⟩ := ih d (Nat.lt_succ_self d) hinside
        refine ⟨e', .inside he hstands, Nat.succ_le_succ hlength, ?_⟩
        rwa [List.length_cons, Nat.add_sub_add_right]
  · rintro ⟨e, hstands, hlength, hfind⟩
    induction hstands generalizing depth with
    | here he => exact mem_walk.2 ⟨_, he, [], rfl, mem_finds_iff.2 (.inl ⟨rfl, hfind⟩)⟩
    | @inside es inner n path e he hrest ih =>
      rw [List.length_cons] at hlength hfind
      have hpos := hrest.length_pos
      obtain ⟨d, rfl⟩ : ∃ d, depth = d + 1 := ⟨depth - 1, by omega⟩
      rw [Nat.add_sub_add_right] at hfind
      refine mem_walk.2 ⟨_, he, path, rfl, mem_finds_iff.2 (.inr ⟨n, inner, d, rfl, rfl, ?_⟩)⟩
      exact ih (Nat.le_of_succ_le_succ hlength) hfind

theorem mem_walk_file_iff {bytes : Except SystemError (List UInt8)} :
    (path, .file bytes) ∈ (dir es).walk depth ↔
      HasFile es path bytes ∧ path.length ≤ depth + 1 := by
  rw [mem_walk_iff]
  constructor
  · rintro ⟨e, hstands, hlength, hmeets⟩
    obtain ⟨n, rfl⟩ := meets?_eq_file_iff.1 hmeets
    exact ⟨⟨n, hstands⟩, hlength⟩
  · rintro ⟨⟨n, hstands⟩, hlength⟩
    exact ⟨_, hstands, hlength, meets?_eq_file_iff.2 ⟨n, rfl⟩⟩

theorem mem_walk_tooDeep_iff : (path, .tooDeep) ∈ (dir es).walk depth ↔
    HasDir es path ∧ path.length = depth + 1 := by
  rw [mem_walk_iff]
  constructor
  · rintro ⟨e, hstands, hlength, hmeets⟩
    obtain ⟨hzero, ⟨n, inner, rfl⟩ | ⟨refused, n, rfl⟩⟩ := meets?_eq_tooDeep_iff.1 hmeets
    · exact ⟨.inl ⟨n, inner, hstands⟩, by omega⟩
    · exact ⟨.inr ⟨refused, n, hstands⟩, by omega⟩
  · rintro ⟨hdir, hlength⟩
    have hzero : depth + 1 - path.length = 0 := by rw [hlength, Nat.sub_self]
    rcases hdir with ⟨n, inner, hstands⟩ | ⟨refused, n, hstands⟩
    · exact ⟨_, hstands, hlength.le, meets?_eq_tooDeep_iff.2 ⟨hzero, .inl ⟨n, inner, rfl⟩⟩⟩
    · exact ⟨_, hstands, hlength.le, meets?_eq_tooDeep_iff.2 ⟨hzero, .inr ⟨refused, n, rfl⟩⟩⟩

theorem mem_walk_refused_iff {refused : SystemError} :
    (path, .refused refused) ∈ (dir es).walk depth ↔
      HasClosed es path refused ∧ path.length ≤ depth := by
  rw [mem_walk_iff]
  constructor
  · rintro ⟨e, hstands, hlength, hmeets⟩
    obtain ⟨hpos, n, rfl⟩ := meets?_eq_refused_iff.1 hmeets
    exact ⟨⟨n, hstands⟩, by omega⟩
  · rintro ⟨⟨n, hstands⟩, hlength⟩
    exact ⟨_, hstands, hlength.trans (Nat.le_succ _),
      meets?_eq_refused_iff.2 ⟨by omega, n, rfl⟩⟩

theorem increasing_walk (h : Distinct es) (depth : Nat) :
    ((dir es).walk depth).Pairwise fun a b => a.1 < b.1 := by
  induction depth using Nat.strong_induction_on generalizing es with
  | _ depth ih =>
    obtain ⟨hnames, hinside⟩ := h
    rw [walk, findsAll_eq_map]
    refine Find.increasing_ofEntries (by rwa [List.map_map]) ?_
    rw [List.forall_mem_map]
    intro e he
    cases e with
    | file => exact List.pairwise_singleton ..
    | closed => cases depth <;> exact List.pairwise_singleton ..
    | dir n inner =>
      cases depth with
      | zero => exact List.pairwise_singleton ..
      | succ d =>
        rw [finds]
        exact ih d (Nat.lt_succ_self d) (hinside n inner he)

/-! ## What a search answers -/

variable {base : String} {found : Found}

/-- What a search meets at paths that are short enough. -/
def met (es : List Entry) (base : String) (depth : Nat) : List (List String × Find) :=
  ((dir es).walk depth).filter fun (names, _) => Path.fits (Path.below base names)

theorem mem_met_iff : (path, f) ∈ met es base depth ↔
    (path, f) ∈ (dir es).walk depth ∧ Path.fits (Path.below base path) :=
  List.mem_filter

theorem mem_met_refused_iff {e : SystemError} :
    (path, .refused e) ∈ met es base depth ↔ Bars es base depth path e := by
  rw [mem_met_iff, mem_walk_refused_iff, Bars, and_assoc]

theorem increasing_met (h : Distinct es) (base : String) (depth : Nat) :
    (met es base depth).Pairwise fun a b => a.1 < b.1 :=
  (increasing_walk h depth).sublist List.filter_sublist

/-- A search ends at the first directory that refuses to be listed, or finds what it has to. -/
theorem search_cases (es : List Entry) (base : String) (depth : Nat) :
    (∃ path e, (met es base depth).findSome? Find.refused? = some (path, e) ∧
      (dir es).search base depth = .error (Path.below base path, e)) ∨
    ((∀ path e, ¬Bars es base depth path e) ∧ (dir es).search base depth =
      .ok ⟨(met es base depth).filterMap Find.file?,
        (met es base depth).filterMap Find.skipped?⟩) := by
  rcases hrefused : (met es base depth).findSome? Find.refused? with _ | ⟨path, e⟩
  · refine .inr ⟨fun path e hbars => ?_, ?_⟩
    · have hnone := List.findSome?_eq_none_iff.1 hrefused _ (mem_met_refused_iff.2 hbars)
      rw [Find.refused?_eq_some_iff.2 rfl] at hnone
      cases hnone
    · rw [met] at hrefused
      simp only [search, hrefused, met]
  · refine .inl ⟨path, e, rfl, ?_⟩
    rw [met] at hrefused
    simp only [search, hrefused]

/-- The directory at which a search ends is the first in its way. -/
theorem bars_of_findSome? (h : Distinct es) {e : SystemError}
    (hrefused : (met es base depth).findSome? Find.refused? = some (path, e)) :
    Bars es base depth path e ∧ ∀ path' e', Bars es base depth path' e' → path ≤ path' := by
  obtain ⟨before, p, after, hmet, hp, hbefore⟩ := List.findSome?_eq_some_iff.1 hrefused
  obtain rfl := Find.refused?_eq_some_iff.1 hp
  have hincreasing := increasing_met h base depth
  rw [hmet, List.pairwise_append, List.pairwise_cons] at hincreasing
  refine ⟨mem_met_refused_iff.1 (hmet ▸ by simp), fun path' e' hbars => ?_⟩
  have hmem := mem_met_refused_iff.2 hbars
  rw [hmet, List.mem_append, List.mem_cons] at hmem
  rcases hmem with hmem | heq | hmem
  · have hnone := hbefore _ hmem
    rw [Find.refused?_eq_some_iff.2 rfl] at hnone
    cases hnone
  · exact (congrArg Prod.fst heq).ge
  · exact (hincreasing.2.1.1 _ hmem).le

theorem discovers_of_search (h : Distinct es) (hsearch : (dir es).search base depth = .ok found) :
    found.Discovers base depth es := by
  rcases search_cases es base depth with ⟨path, e, -, herror⟩ | ⟨-, hfound⟩
  · rw [hsearch] at herror
    cases herror
  · obtain rfl := Except.ok.inj (hsearch.symm.trans hfound)
    constructor
    · intro path bytes
      simp only [List.mem_filterMap, Find.file?_eq_some_iff, exists_eq_right]
      rw [mem_met_iff, mem_walk_file_iff, and_assoc]
    · intro path
      simp only [List.mem_filterMap, Find.skipped?_eq_some_iff, exists_eq_right]
      rw [mem_met_iff, mem_walk_tooDeep_iff, and_assoc]
    · refine (increasing_met h base depth).filterMap Find.file? ?_
      rintro p p' hlt ⟨path, bytes⟩ hp ⟨path', bytes'⟩ hp'
      obtain rfl := Find.file?_eq_some_iff.1 hp
      obtain rfl := Find.file?_eq_some_iff.1 hp'
      exact hlt
    · refine (increasing_met h base depth).filterMap Find.skipped? ?_
      rintro p p' hlt path hp path' hp'
      obtain rfl := Find.skipped?_eq_some_iff.1 hp
      obtain rfl := Find.skipped?_eq_some_iff.1 hp'
      exact hlt

/-- A file is returned, or it lies below the one directory on its path where the search stopped. -/
theorem xor_mem_files (hfound : found.Discovers base depth es)
    {bytes : Except SystemError (List UInt8)} (hfile : HasFile es path bytes)
    (hfits : Path.fits (Path.below base path)) :
    Xor ((path, bytes) ∈ found.files) (∃! d, d ∈ found.skipped ∧ Path.IsBelow path d) := by
  rw [hfound.mem_files]
  by_cases hlength : path.length ≤ depth + 1
  · refine .inl ⟨⟨hfile, hlength, hfits⟩, ?_⟩
    rintro ⟨d, ⟨hd, n, rest, rfl⟩, -⟩
    have hd' := ((hfound.mem_skipped d).1 hd).2.1
    simp only [List.length_append, List.length_cons] at hlength
    omega
  · have hlt : depth + 1 < path.length := Nat.lt_of_not_le hlength
    obtain ⟨n, rest, hrest⟩ := List.exists_cons_of_ne_nil (List.drop_eq_nil_iff.not.2 hlength)
    obtain ⟨name, hstands⟩ := hfile
    refine .inr ⟨⟨path.take (depth + 1), ⟨(hfound.mem_skipped _).2 ⟨hstands.hasDir_take depth hlt,
      ?_, Path.fits_take hfits _⟩, n, rest, ?_⟩, ?_⟩, fun hmem => hlength hmem.2.1⟩
    · exact List.length_take_of_le hlt.le
    · rw [← hrest, List.take_append_drop]
    · rintro d ⟨hd, n', rest', rfl⟩
      exact (List.take_left' ((hfound.mem_skipped d).1 hd).2.1).symm

/-- Going further down only adds files, between those that are there. -/
theorem files_sublist {depth' : Nat} {found' : Found} (hfound : found.Discovers base depth es)
    (hfound' : found'.Discovers base depth' es) (hdepth : depth ≤ depth') :
    found.files.Sublist found'.files := by
  have hantisymm : Std.Antisymm fun a b : List String × Except SystemError (List UInt8) =>
      a.1 < b.1 :=
    ⟨fun a b hab hba => absurd hba (lt_asymm hab)⟩
  have hnodup : found.files.Nodup :=
    hfound.files.imp fun hlt heq => absurd (heq ▸ hlt) (lt_irrefl _)
  refine List.sublist_of_subperm_of_pairwise (List.subperm_of_subset hnodup ?_) hfound.files
    hfound'.files
  rintro ⟨path, bytes⟩ hfile
  rw [hfound.mem_files] at hfile
  rw [hfound'.mem_files]
  exact ⟨hfile.1, hfile.2.1.trans (Nat.succ_le_succ hdepth), hfile.2.2⟩

/-- A search loses and repeats no file. It has an answer unless a directory on its way refuses to be
listed, and then names the first of these. What it answers is all that it has to find, a file that
is not returned lies below exactly one directory that was skipped, and going further down only adds
files. Files and directories whose paths are too long for the system are lost. -/
theorem search_discovers (h : Distinct es) (base : String) (depth : Nat) :
    ((∃ found, (dir es).search base depth = .ok found) ↔
      ∀ path e, ¬Bars es base depth path e) ∧
    (∀ place e, (dir es).search base depth = .error (place, e) → ∃ path,
      place = Path.below base path ∧ Bars es base depth path e ∧
        ∀ path' e', Bars es base depth path' e' → path ≤ path') ∧
    ∀ found, (dir es).search base depth = .ok found →
      found.Discovers base depth es ∧
      (∀ path bytes, HasFile es path bytes → Path.fits (Path.below base path) →
        Xor ((path, bytes) ∈ found.files)
          (∃! d, d ∈ found.skipped ∧ Path.IsBelow path d)) ∧
      ∀ depth' found', depth ≤ depth' → (dir es).search base depth' = .ok found' →
        found.files.Sublist found'.files := by
  refine ⟨?_, ?_, fun found hsearch => ?_⟩
  · rcases search_cases es base depth with ⟨path, e, hrefused, hsearch⟩ | ⟨hnone, hsearch⟩
    · refine iff_of_false ?_ fun hnone => hnone path e (bars_of_findSome? h hrefused).1
      rw [hsearch]
      rintro ⟨found, hfound⟩
      cases hfound
    · exact iff_of_true ⟨_, hsearch⟩ hnone
  · intro place e herror
    rcases search_cases es base depth with ⟨path, e', hrefused, hsearch⟩ | ⟨-, hsearch⟩
    · rw [hsearch] at herror
      cases herror
      exact ⟨path, rfl, bars_of_findSome? h hrefused⟩
    · rw [hsearch] at herror
      cases herror
  · have hfound := discovers_of_search h hsearch
    exact ⟨hfound, fun path bytes => xor_mem_files hfound, fun depth' found' hdepth hsearch' =>
      files_sublist hfound (discovers_of_search h hsearch') hdepth⟩

/-- A directory with a directory and a file whose names agree up to the dot, and a directory two
levels down that is closed. -/
def cellar : List Entry :=
  [.file "wine.txt" (.ok [87]),
    .dir "wine" [.closed "old" .permissionDenied, .file "red" (.ok [82])]]

theorem distinct_cellar : Distinct cellar := by
  refine .intro (by decide) fun n inner hwine => ?_
  obtain ⟨rfl, rfl⟩ :
      n = "wine" ∧ inner = [.closed "old" .permissionDenied, .file "red" (.ok [82])] := by
    simpa [cellar] using hwine
  exact .intro (by decide) fun n inner hnone => by simp at hnone

/-- The file in the directory comes before the one beside it, though a dot sorts before a slash. One
level further down, the search ends at the closed directory. -/
theorem search_discovers_cellar : ∃ found, (dir cellar).search "src" 1 = .ok found ∧
    found.files = [(["wine", "red"], .ok [82]), (["wine.txt"], .ok [87])] ∧
    found.skipped = [["wine", "old"]] ∧ found.Discovers "src" 1 cellar ∧
    Xor ((["wine.txt"], .ok [87]) ∈ found.files)
      (∃! d, d ∈ found.skipped ∧ Path.IsBelow ["wine.txt"] d) ∧
    ¬∃ found, (dir cellar).search "src" 2 = .ok found := by
  obtain ⟨-, -, hall⟩ := search_discovers distinct_cellar "src" 1
  obtain ⟨hanswers, -⟩ := search_discovers distinct_cellar "src" 2
  have hwalk : (dir cellar).walk 1 = [(["wine", "old"], .tooDeep),
      (["wine", "red"], .file (.ok [82])), (["wine.txt"], .file (.ok [87]))] := by
    simp [cellar, walk, findsAll, finds, name, Find.ofEntries, List.mergeSort]
  have hsearch : (dir cellar).search "src" 1 =
      .ok ⟨[(["wine", "red"], .ok [82]), (["wine.txt"], .ok [87])], [["wine", "old"]]⟩ := by
    rw [search, hwalk, List.filter_eq_self.2]
    · rfl
    · simp only [List.forall_mem_cons, List.not_mem_nil, false_implies, implies_true, and_true]
      decide +kernel
  obtain ⟨hdiscovers, hxor, -⟩ := hall _ hsearch
  have hfile : HasFile cellar ["wine.txt"] (.ok [87]) := ⟨"wine.txt", .here (.head _)⟩
  refine ⟨_, hsearch, rfl, rfl, hdiscovers, hxor _ _ hfile (by decide +kernel), ?_⟩
  rw [hanswers]
  intro hnone
  exact hnone ["wine", "old"] .permissionDenied
    ⟨⟨"old", .inside (.tail _ (.head _)) (.here (.head _))⟩, by decide, by decide +kernel⟩

end Opened

end StoryWorld
