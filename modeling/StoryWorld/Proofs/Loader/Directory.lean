import StoryWorld.Loader.Directory
import StoryWorld.Proofs.Conversion.Headings
import StoryWorld.Proofs.Conversion.Results
import StoryWorld.Proofs.Loader.Joining
import StoryWorld.Proofs.Loader.Rejection
import StoryWorld.Proofs.Token.LineReading
import StoryWorld.Proofs.World.Order

/-!
# What a directory of sources makes

A directory is loaded file by file. The world that comes of it is the one that the accepted files
make, whatever is warned of on the way. There is one error for each file that is rejected, and one
for each kind whose source cannot be searched (`loadWorld_directory`). If no file is rejected, there
are as many things of a kind as its files have names for objects (`SourceFile.count_entities`).
-/

namespace StoryWorld

open World (Entity)

/-! ## Files -/

/-- A file that is loaded as a source of a kind. -/
structure SourceFile where
  kind : Kind
  path : List String
  bytes : Except SystemError (List UInt8)

namespace World.Entity

def kind : Entity → Kind
  | node _ => .node
  | character _ => .character
  | quest _ => .quest

def name : Entity → String
  | node n => n.name
  | character c => c.name
  | quest q => q.name

/-- The names of the things of a kind. -/
def namesOf (k : Kind) (es : List Entity) : List String :=
  (es.filter fun e => e.kind = k).map (·.name)

theorem namesOf_append (k : Kind) (es es' : List Entity) :
    namesOf k (es ++ es') = namesOf k es ++ namesOf k es' := by
  rw [namesOf, List.filter_append, List.map_append]
  rfl

theorem names_nodes (es : List Entity) :
    (es.filterMap node?).map (·.name) = namesOf .node es := by
  induction es with
  | nil => rfl
  | cons e es ih =>
    cases e with
    | node n => exact congrArg (n.name :: ·) ih
    | character | quest => exact ih

theorem names_characters (es : List Entity) :
    (es.filterMap character?).map (·.name) = namesOf .character es := by
  induction es with
  | nil => rfl
  | cons e es ih =>
    cases e with
    | character c => exact congrArg (c.name :: ·) ih
    | node | quest => exact ih

theorem names_quests (es : List Entity) :
    (es.filterMap quest?).map (·.name) = namesOf .quest es := by
  induction es with
  | nil => rfl
  | cons e es ih =>
    cases e with
    | quest q => exact congrArg (q.name :: ·) ih
    | node | character => exact ih

end World.Entity

/-- The number of things of a kind in a world. -/
def World.count (w : World) : Kind → Nat
  | .node => w.nodes.size
  | .character => w.characters.size
  | .quest => w.quests.size

theorem World.count_link (w : World) (k : Kind) : w.link.1.count k = w.count k := by
  cases k with
  | node => exact Registry.size_mapEntries ..
  | character | quest => rfl

theorem World.count_settled (settings : Settings) (es : List Entity) (k : Kind) :
    (settled settings es).count k = (Entity.namesOf k es).dedup.length := by
  rw [settled, foldl_enroll]
  cases k with
  | node =>
    rw [← Entity.names_nodes]
    exact Registry.size_insertAll ..
  | character =>
    rw [← Entity.names_characters]
    exact Registry.size_insertAll ..
  | quest =>
    rw [← Entity.names_quests]
    exact Registry.size_insertAll ..

/-- The things that are declared, without places. -/
def Declared.entities : Declared → List Entity
  | nodes ns => ns.map fun p => .node p.2
  | characters cs => cs.map fun p => .character p.2
  | quests qs => qs.map fun p => .quest p.2

theorem World.register_eq_foldl_enroll (w : World) (d : Declared) :
    (w.register d).1 = d.entities.foldl World.enroll w := by
  cases d with
  | nodes ns | characters ns | quests ns =>
    rw [register, fst_gather, Declared.entities, List.foldl_map]
    rfl

theorem Declared.names_entities (d : Declared) :
    d.entities.map (·.name) = d.headings.map (·.2) := by
  cases d with
  | nodes | characters | quests => simp [entities, headings, World.Entity.name]

theorem Declared.kind_of_mem_entities {k : Kind} {t : SourceTree} {d : Declared}
    (h : (ofTree k t).result = .ok d) : ∀ e ∈ d.entities, e.kind = k := by
  cases k with
  | node | character | quest =>
    obtain ⟨xs, -, hpure⟩ := Checked.result_bind_eq_ok_iff.1 h
    obtain rfl := Except.ok.inj hpure
    exact List.forall_mem_map.2 fun _ _ => rfl

namespace SourceFile

/-- The tokens of a file, if it can be read. -/
def lexing (f : SourceFile) : Except SystemError Lexing :=
  f.bytes.map fun bytes => (LineReader.ofBytes bytes).contents.2

theorem lexing_ofText (k : Kind) (path : List String) (text : String) :
    (⟨k, path, .ok text.toUTF8.toList⟩ : SourceFile).lexing = .ok (.ofText text) := by
  rw [lexing, Except.map, LineReader.contents_ofBytes]

/-- Whether a file is read, cut into tokens, read as a tree and converted. -/
def Accepted (f : SourceFile) : Prop :=
  ∃ tokens ls t d, f.lexing = .ok tokens ∧ tokens.result = .ok ls ∧
    SourceTree.ofLexemes ls = .ok t ∧ (Declared.ofTree f.kind t).result = .ok d

/-- What a file declares, with notices, unless it is rejected. -/
def declaration (f : SourceFile) : Option (Declared × List Notice) :=
  match f.lexing with
  | .error _ => none
  | .ok tokens =>
    match Loader.declared f.kind (Path.ofNames f.path) tokens with
    | .error _ => none
    | .ok declared => some declared

theorem declaration_eq_some_iff {f : SourceFile} {d : Declared} {ns : List Notice} :
    f.declaration = some (d, ns) ↔ ∃ tokens, f.lexing = .ok tokens ∧
      Loader.declared f.kind (Path.ofNames f.path) tokens = .ok (d, ns) := by
  unfold declaration
  rcases f.lexing with e | tokens
  · simp
  · rcases hdeclared : Loader.declared f.kind (Path.ofNames f.path) tokens with e | declared
    · simp [hdeclared]
    · simp [hdeclared]

theorem accepted_iff {f : SourceFile} : f.Accepted ↔ ∃ d ns, f.declaration = some (d, ns) := by
  simp only [declaration_eq_some_iff, Loader.declared_eq_ok_iff]
  constructor
  · rintro ⟨tokens, ls, t, d, htokens, hls, ht, hd⟩
    refine ⟨d, (Declared.ofTree f.kind t).notices, tokens, htokens, t, ?_, ?_⟩
    · exact SourceTree.ofLexing_eq_ok_iff.2 ⟨ls, hls, ht⟩
    · rw [← hd]
  · rintro ⟨d, ns, tokens, htokens, t, hread, htree⟩
    obtain ⟨ls, hls, ht⟩ := SourceTree.ofLexing_eq_ok_iff.1 hread
    exact ⟨tokens, ls, t, d, htokens, hls, ht, by rw [htree]⟩

/-- A file is accepted if its text is. -/
theorem accepted_ofText {k : Kind} {path : List String} {text : String} :
    (⟨k, path, .ok text.toUTF8.toList⟩ : SourceFile).Accepted ↔
      (Loader.declared k (Path.ofNames path) (.ofText text)).isOk = true := by
  simp only [accepted_iff, declaration_eq_some_iff, lexing_ofText]
  rcases h : Loader.declared k (Path.ofNames path) (.ofText text) with e | ⟨d, ns⟩
  · simp [h, Except.isOk, Except.toBool]
  · simp [h, Except.isOk, Except.toBool]

instance : DecidablePred Accepted := fun f =>
  match h : f.declaration with
  | some (d, ns) => .isTrue (accepted_iff.2 ⟨d, ns, h⟩)
  | none => .isFalse fun ha => by
    obtain ⟨d, ns, hd⟩ := accepted_iff.1 ha
    rw [h] at hd
    cases hd

/-- The things that a file adds to a world: none if it is rejected. -/
def entities (f : SourceFile) : List Entity :=
  match f.declaration with
  | some (d, _) => d.entities
  | none => []

/-- The names of the objects in a file, in order. -/
def objectNames (f : SourceFile) : List String :=
  match f.lexing.map SourceTree.ofLexing with
  | .ok (.ok t) => t.objects.map (·.name)
  | _ => []

/-- What an accepted file adds are things of its kind with the names of its objects. -/
theorem Accepted.entities {f : SourceFile} (h : f.Accepted) :
    (∀ e ∈ f.entities, e.kind = f.kind) ∧ f.entities.map (·.name) = f.objectNames := by
  obtain ⟨d, ns, hd⟩ := accepted_iff.1 h
  obtain ⟨tokens, htokens, hdeclared⟩ := declaration_eq_some_iff.1 hd
  obtain ⟨t, hread, htree⟩ := Loader.declared_eq_ok_iff.1 hdeclared
  have hresult : (Declared.ofTree f.kind t).result = .ok d := by rw [htree]
  rw [SourceFile.entities, objectNames, hd, htokens, Except.map, hread]
  refine ⟨Declared.kind_of_mem_entities hresult, ?_⟩
  rw [Declared.names_entities, Declared.headings_of_ofTree hresult, List.map_map]
  rfl

/-- Accepted files of one kind add nothing to the things of another. -/
theorem namesOf_entities {fs : List SourceFile} {k : Kind} (h : ∀ f ∈ fs, f.Accepted)
    (hk : ∀ f ∈ fs, f.kind = k) (k' : Kind) :
    Entity.namesOf k' (fs.flatMap (·.entities)) =
      if k = k' then fs.flatMap (·.objectNames) else [] := by
  induction fs with
  | nil => split <;> rfl
  | cons f fs ih =>
    rw [List.forall_mem_cons] at h hk
    obtain ⟨hkinds, hnames⟩ := h.1.entities
    rw [List.flatMap_cons, Entity.namesOf_append, ih h.2 hk.2, Entity.namesOf]
    split
    · next heq =>
      rw [List.filter_eq_self.2 fun e he => ?_, hnames]
      · rfl
      · rw [hkinds e he, hk.1, decide_eq_true heq]
    · next hne =>
      rw [List.filter_eq_nil_iff.2 fun e he => ?_]
      · rfl
      · rw [hkinds e he, hk.1, decide_eq_true_eq]
        exact hne

/-- The source files of a kind in the directory of a world that opened at a path. -/
def ofKind (base : String) (root : Opened) (depth : Nat) (k : Kind) : List SourceFile :=
  match root.locate? "" k base with
  | none => []
  | some (name, source) =>
    match source.search (Path.join base name) depth with
    | .ok found => found.files.map fun p => ⟨k, name :: p.1, p.2⟩
    | .error _ => []

/-- Whether the source of a kind is there and cannot be searched. -/
def barred (base : String) (root : Opened) (depth : Nat) (k : Kind) : Bool :=
  match root.locate? "" k base with
  | none => false
  | some (name, source) => !(source.search (Path.join base name) depth).isOk

theorem kind_of_mem_ofKind {base : String} {root : Opened} {depth : Nat} {k : Kind} :
    ∀ f ∈ ofKind base root depth k, f.kind = k := by
  unfold ofKind
  split
  · simp
  · split
    · exact List.forall_mem_map.2 fun _ _ => rfl
    · simp

/-- The source files in the directory of a world, in the order in which they are loaded. -/
def discovered (base : String) (root : Opened) (depth : Nat) : List SourceFile :=
  Kind.loadOrder.flatMap (ofKind base root depth)

end SourceFile

/-! ## Loading files -/

namespace Loader

/-- The number of errors so far. -/
def errors (l : Loader) : Nat := l.diagnostics.countP (·.isError)

/-- The loader after a file in the directory of a world that opened at a path. -/
def load (base : String) (l : Loader) (f : SourceFile) : Loader :=
  (l.openFile f.kind (Path.ofNames f.path) (Path.below base f.path) f.bytes).1

/-- What a loader is after files and some sources that could not be searched: the things of the
files are registered, and there is one more error for each file that is rejected and for each
source. -/
structure Loads (l : Loader) (fs : List SourceFile) (barred : Nat) (l' : Loader) : Prop where
  world : l'.world = (fs.flatMap (·.entities)).foldl World.enroll l.world
  errors : l'.errors = l.errors + (fs.countP (fun f => ¬f.Accepted) + barred)

variable {l l' l'' : Loader} {fs gs : List SourceFile} {m n : Nat}

theorem Loads.trans (h : Loads l fs m l') (h' : Loads l' gs n l'') :
    Loads l (fs ++ gs) (m + n) l'' where
  world := by rw [h'.world, h.world, List.flatMap_append, List.foldl_append]
  errors := by rw [h'.errors, h.errors, List.countP_append]; omega

theorem loads_warn (l : Loader) (message : String) :
    Loads l [] 0 (l.record (.warningOf message)) where
  world := rfl
  errors := by
    rw [errors, record, List.countP_append]
    rfl

theorem loads_refuse (l : Loader) (e : LoadError) : Loads l [] 1 (l.record e.toDiagnostic) where
  world := rfl
  errors := by
    rw [errors, record, List.countP_append, List.countP_singleton, e.isError_toDiagnostic]
    rfl

theorem loads_accept {f : SourceFile} {tokens : Lexing} (htokens : f.lexing = .ok tokens)
    (l : Loader) (text : String) :
    Loads l [f] 0 (l.accept f.kind (Path.ofNames f.path) text tokens).1 := by
  unfold accept
  split
  · next e he =>
    have hnone : f.declaration = none := by simp only [SourceFile.declaration, htokens, he]
    have hrejected : ¬f.Accepted := by simp [SourceFile.accepted_iff, hnone]
    constructor
    · simp [SourceFile.entities, hnone]
    · simp [errors, e.isError_toDiagnostic, hrejected]
  · next d notices hd =>
    have hsome : f.declaration = some (d, notices) :=
      SourceFile.declaration_eq_some_iff.2 ⟨tokens, htokens, hd⟩
    have haccepted : f.Accepted := SourceFile.accepted_iff.2 ⟨d, notices, hsome⟩
    constructor
    · simp [SourceFile.entities, hsome, World.register_eq_foldl_enroll]
    · simp [errors, Notice.isError_toDiagnostic, haccepted]

theorem loads_load (base : String) (l : Loader) (f : SourceFile) :
    Loads l [f] 0 (l.load base f) := by
  obtain ⟨k, path, bytes⟩ := f
  cases bytes with
  | ok bytes => exact loads_accept rfl l _
  | error e =>
    -- what cannot be read is rejected, and declares nothing
    have hnone : (⟨k, path, .error e⟩ : SourceFile).declaration = none := rfl
    have hrejected : ¬(⟨k, path, .error e⟩ : SourceFile).Accepted := by
      simp [SourceFile.accepted_iff, hnone]
    have hload : l.load base ⟨k, path, .error e⟩ =
        l.record (LoadError.unreadable (Path.below base path) e).toDiagnostic := rfl
    have hrefuse := loads_refuse l (.unreadable (Path.below base path) e)
    rw [hload]
    constructor
    · simpa [SourceFile.entities, hnone] using hrefuse.world
    · simpa [hrejected] using hrefuse.errors

theorem loads_foldl_warn {α : Type} (message : α → String) (l : Loader) (as : List α) :
    Loads l [] 0 (as.foldl (fun l a => l.record (.warningOf (message a))) l) := by
  induction as generalizing l with
  | nil => exact ⟨rfl, rfl⟩
  | cons a as ih => exact (loads_warn l (message a)).trans (ih _)

theorem loads_foldl_load (base : String) (l : Loader) (fs : List SourceFile) :
    Loads l fs 0 (fs.foldl (load base) l) := by
  induction fs generalizing l with
  | nil => exact ⟨rfl, rfl⟩
  | cons f fs ih => exact (loads_load base l f).trans (ih (l.load base f))

theorem loads_addKind (l : Loader) (base : String) (root : Opened) (depth : Nat) (k : Kind) :
    Loads l (SourceFile.ofKind base root depth k)
      (SourceFile.barred base root depth k).toNat (l.addKind base root depth k) := by
  unfold addKind SourceFile.ofKind SourceFile.barred
  cases root.locate? "" k base with
  | none => exact loads_warn ..
  | some located =>
    obtain ⟨name, source⟩ := located
    dsimp only
    rcases source.search (Path.join base name) depth with ⟨path, e⟩ | found
    · exact loads_refuse l (.unreadable path e)
    · have hskipped := loads_foldl_warn (fun names =>
        "max depth " ++ depth.repr ++ " reached, skipping " ++ Path.ofNames (name :: names)) l
        found.skipped
      have hfiles := hskipped.trans (loads_foldl_load base _
        (found.files.map fun p => ⟨k, name :: p.1, p.2⟩))
      rw [List.foldl_map] at hfiles
      exact hfiles

theorem loads_foldl_addKind (l : Loader) (base : String) (root : Opened) (depth : Nat)
    (ks : List Kind) : Loads l (ks.flatMap (SourceFile.ofKind base root depth))
      (ks.countP (SourceFile.barred base root depth))
      (ks.foldl (fun l k => l.addKind base root depth k) l) := by
  induction ks generalizing l with
  | nil => exact ⟨rfl, rfl⟩
  | cons k ks ih =>
    have hall := (loads_addKind l base root depth k).trans (ih _)
    rw [List.countP_cons, Nat.add_comm]
    cases hk : SourceFile.barred base root depth k <;> simpa [hk] using hall

theorem errorCount_finish (l : Loader) : l.finish.errorCount = l.errors := by
  rw [finish, LoadReport.errorCount, List.countP_append, List.countP_map, errors]
  have hnone : l.world.link.2.countP ((·.isError) ∘ fun w => Diagnostic.warningOf w.message) = 0 :=
    List.countP_eq_zero.2 fun w _ => Bool.false_ne_true
  rw [hnone, Nat.add_zero]

end Loader

theorem LoadReport.hasErrors_iff {r : LoadReport} : r.hasErrors = true ↔ 0 < r.errorCount := by
  rw [hasErrors, errorCount, List.any_eq_true, List.countP_pos_iff]

/-- A directory is loaded whatever is in it: its accepted files make the world. Each of the other
files is one error, and so is each source that cannot be searched. -/
theorem loadWorld_directory (base : String) (root : Opened) (hroot : root.isDirectory = true)
    (settings : Settings) (depth : Nat) : ∃ r, loadWorld base (.ok root) settings depth = .ok r ∧
      r.world = (World.settled settings
        ((SourceFile.discovered base root depth).flatMap (·.entities))).link.1 ∧
      r.errorCount = (SourceFile.discovered base root depth).countP (fun f => ¬f.Accepted) +
        Kind.loadOrder.countP (SourceFile.barred base root depth) := by
  have hloads := Loader.loads_foldl_addKind (.start settings) base root depth Kind.loadOrder
  refine ⟨_, if_pos hroot, ?_, ?_⟩
  · rw [Loader.finish, hloads.world]
    rfl
  · rw [Loader.errorCount_finish, hloads.errors]
    exact Nat.zero_add _

namespace SourceFile

/-- The number of different names that the objects of a kind have in a directory. -/
def nameCount (base : String) (root : Opened) (depth : Nat) (k : Kind) : Nat :=
  ((ofKind base root depth k).flatMap (·.objectNames)).dedup.length

theorem count_entities {base : String} {root : Opened} {depth : Nat}
    (h : ∀ f ∈ discovered base root depth, f.Accepted) (settings : Settings) (k : Kind) :
    (World.settled settings ((discovered base root depth).flatMap (·.entities))).link.1.count k =
      nameCount base root depth k := by
  have hnames (k' : Kind) (hk' : k' ∈ Kind.loadOrder) :
      Entity.namesOf k ((ofKind base root depth k').flatMap (·.entities)) =
        if k' = k then (ofKind base root depth k').flatMap (·.objectNames) else [] :=
    namesOf_entities (fun f hf => h f (List.mem_flatMap.2 ⟨k', hk', hf⟩)) kind_of_mem_ofKind k
  simp only [World.count_link, World.count_settled, discovered, Kind.loadOrder, List.flatMap_cons,
    List.flatMap_nil, List.append_nil, List.flatMap_append, Entity.namesOf_append]
  rw [hnames .node (by decide), hnames .character (by decide), hnames .quest (by decide),
    nameCount]
  cases k with
  | node | character | quest => simp

end SourceFile

end StoryWorld
