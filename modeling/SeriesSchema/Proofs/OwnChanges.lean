import SeriesSchema.Proofs.Commands
import SeriesSchema.Proofs.SchemaFiles

/-!
# What the program itself changes

Schema files are named after types that are read from arbitrary texts, and a name that held a slash
or was `..` would lead anywhere.  So where the program writes rests on what names can hold
(`Extractor.allows`), and the rest is bookkeeping: one relation between trees says what the program
may do to a tree, and each of its steps keeps to it.

* `StaysWithin` is that relation.  A place shows what it showed; or it was free, and is now a
  directory that the output path names on its way; or a text file stands at it, directly in the
  output directory, with a name that ends in `Series.proto` and has allowed characters before.
* The compiler is another program, and may do to the tree what it likes.  A pass is therefore a
  sequence in which changes of the program and calls of the compiler take turns (`Alternates`).
  Nothing is assumed of the compiler.

Which places the output path names is said by its text alone (`destination`), and not by walks
through some tree, so that the relation composes however the tree has changed in between.

1. where steps lead;
2. the relation;
3. each step of a pass;
4. the passes;
5. the program.
-/

namespace SeriesSchema

open FileTree

/-! ## 1. Where steps lead -/

namespace FileTree

variable {t u : FileTree}

/-- Where one step leads, if it can be taken. -/
def stepTo (place : Location) (name : String) : Location :=
  if name = "." then place else if name = ".." then place.tail else name :: place

/-- Where steps lead, if they can be taken. -/
def destination (place : Location) (names : List String) : Location :=
  names.foldl stepTo place

/-- A step that is taken leads where the name says, whatever the tree holds. -/
theorem eq_stepTo_of_step {place next : Location} {name : String}
    (h : t.step place name = .ok next) : next = stepTo place name := by
  unfold stepTo
  rcases (step_text_eq_ok.mp h).2 with
    ⟨hdot, hnext⟩ | ⟨hdot, hdots, hnext⟩ | ⟨hdot, hdots, -, hnext⟩
  · rw [if_pos hdot, hnext]
  · rw [if_neg hdot, if_pos hdots, hnext]
  · rw [if_neg hdot, if_neg hdots, hnext]

/-- **A walk that arrives does so where the names say.** -/
theorem eq_destination_of_walk {place last : Location} {names : List String}
    (h : t.walk place names = .ok last) : last = destination place names := by
  induction names generalizing place with
  | nil => exact (Except.ok.inj h).symm
  | cons name names ih =>
    obtain ⟨next, hstep, hwalk⟩ := walk_cons_eq_ok.mp h
    rw [destination, List.foldl_cons, ← eq_stepTo_of_step hstep]
    exact ih hwalk

theorem start_congr (h : u.here = t.here) (path : String) : u.start path = t.start path := by
  rw [start, start, h]

end FileTree

/-! ## 2. What may be changed -/

variable {s : Settings} {c : Compiler} {t u v : FileTree} {place : Location}

/-- Whether a place is the output directory, or one that its path names on the way. -/
def Settings.NamesOnWay (s : Settings) (t : FileTree) (place : Location) : Prop :=
  ∃ names, names <+: Path.parts s.protoOutDir ∧ place = destination (t.start s.protoOutDir) names

/-- Whether a place is directly in the output directory, and its name that of a schema file: word
characters, and then `Series.proto`. -/
def Settings.NamesSchema (s : Settings) (t : FileTree) (place : Location) : Prop :=
  ∃ type : String, (∀ c ∈ type.toList, s.extractor.allows c = true) ∧
    (∀ c ∈ ['/', '.', '\x00'], c ∉ type.toList) ∧
      place = FileName.text (type ++ "Series.proto") ::
        destination (t.start s.protoOutDir) (Path.parts s.protoOutDir)

/-- The later tree comes from the earlier one by changes that are the program's to make. -/
structure StaysWithin (s : Settings) (before after : FileTree) : Prop where
  here : after.here = before.here
  places : ∀ place, after.get? place = before.get? place ∨
    (before.get? place = none ∧ after.get? place = some .directory ∧ s.NamesOnWay before place) ∨
    (before.get? place ≠ some .directory ∧
      (∃ text executable, after.get? place = some (.file (.text text) executable)) ∧
        s.NamesSchema before place)

namespace StaysWithin

protected theorem refl (s : Settings) (t : FileTree) : StaysWithin s t t :=
  ⟨rfl, fun _ => Or.inl rfl⟩

/-- Both kinds of places are named by the same text on both trees, so that changes compose. -/
protected theorem trans (h : StaysWithin s t u) (h' : StaysWithin s u v) : StaysWithin s t v := by
  refine ⟨h'.here.trans h.here, fun place => ?_⟩
  have hplaces := h'.places place
  unfold Settings.NamesOnWay Settings.NamesSchema at hplaces
  rw [start_congr h.here] at hplaces
  rcases hplaces with heq | ⟨hnone, hdir, hway⟩ | ⟨hnot, hfile, hschema⟩
  · rw [heq]
    exact h.places place
  · rcases h.places place with heq | ⟨-, hdir', -⟩ | ⟨-, ⟨text, executable, hfile⟩, -⟩
    · exact Or.inr (Or.inl ⟨heq ▸ hnone, hdir, hway⟩)
    · rw [hnone] at hdir'
      cases hdir'
    · rw [hnone] at hfile
      cases hfile
  · rcases h.places place with heq | ⟨-, hdir, -⟩ | ⟨hnot', -, -⟩
    · exact Or.inr (Or.inr ⟨heq ▸ hnot, hfile, hschema⟩)
    · exact absurd hdir hnot
    · exact Or.inr (Or.inr ⟨hnot', hfile, hschema⟩)

/-- Directories on the way of the output path may be added. -/
theorem of_addsDirectories (h : t.AddsDirectories u (u.Passes s.protoOutDir)) :
    StaysWithin s t u := by
  refine ⟨h.here, fun place => ?_⟩
  rcases h.places place with heq | ⟨hnone, hdir, names, hprefix, hwalk⟩
  · exact Or.inl heq
  · rw [start_congr h.here] at hwalk
    exact Or.inr (Or.inl ⟨hnone, hdir, names, hprefix, eq_destination_of_walk hwalk⟩)

/-- A text may be written at the place of a schema. -/
theorem of_writesAt {text : String} (h : t.WritesAt u place text)
    (hschema : s.NamesSchema t place) : StaysWithin s t u := by
  refine ⟨h.here, fun other => ?_⟩
  by_cases hother : other = place
  · subst hother
    obtain ⟨executable, hget⟩ := h.text
    exact Or.inr (Or.inr ⟨h.notDirectory, ⟨text, executable, hget⟩, hschema⟩)
  · exact Or.inl (h.elsewhere other hother)

end StaysWithin

/-! ## 3. The steps of a pass -/

/-- **The file of a schema is where it should be**, whatever text the schema was read from: no
character of the type's name can lead out of the output directory. -/
theorem namesSchema_of_renderFile {path : Path} {doc : Document}
    (hrender : renderFile s t path = .ok doc)
    (hresolve : u.resolve (s.schemaPath doc) = .ok place) : s.NamesSchema u place := by
  obtain ⟨out, hwalk, rfl⟩ := resolve_schemaPath (namesFile_of_renderFile hrender) hresolve
  obtain ⟨source, d, -, hd, rfl⟩ := renderFile_eq_ok hrender
  refine ⟨d.name, Extractor.allows_of_extract? hd List.mem_cons_self, fun c hc => ?_, ?_⟩
  · simp only [List.mem_cons, List.not_mem_nil, or_false] at hc
    rcases hc with rfl | rfl | rfl
    · exact Extractor.not_mem_name hd List.mem_cons_self (by decide) (by decide)
    · exact Extractor.not_mem_name hd List.mem_cons_self (by decide) (by decide)
    · exact Extractor.not_mem_name hd List.mem_cons_self (by decide) (by decide)
  · rw [fileName_ofDefinition, eq_destination_of_walk hwalk]

/-- Writing the schema of a file keeps to the program's own places, also when it fails. -/
theorem staysWithin_writeSchema {path : Path} {doc : Document} {tree : FileTree}
    {result : Except Failure String} (hrender : renderFile s t path = .ok doc)
    (hwrite : writeSchema s doc u = (result, tree)) : StaysWithin s u tree := by
  rcases writeSchema_cases hwrite with ⟨_, _, -, hadds⟩ | ⟨-, made, place, hadds, hresolve, hwrites⟩
  · exact .of_addsDirectories hadds
  · have hschema := namesSchema_of_renderFile hrender hresolve
    exact (StaysWithin.of_addsDirectories hadds).trans (.of_writesAt hwrites hschema)

/-! ## 4. The passes -/

/-- What becomes of a tree by changes of the program and calls of the compiler, in turn.  The calls
are listed in order; each is made on the tree as it then is, and leaves what the compiler leaves. -/
inductive Alternates (s : Settings) (c : Compiler) (before : FileTree) :
    List Call → FileTree → Prop
  | start : Alternates s c before [] before
  | own {calls : List Call} {tree next : FileTree} (earlier : Alternates s c before calls tree)
      (within : StaysWithin s tree next) : Alternates s c before calls next
  | call {calls : List Call} {tree : FileTree} (schema : String)
      (earlier : Alternates s c before calls tree) :
      Alternates s c before (calls ++ [s.callFor schema tree])
        (c.start calls (s.callFor schema tree)).2

variable {st st' : State} {before : FileTree}

/-- With no call, all changes are the program's own. -/
theorem Alternates.staysWithin_of_nil {after : FileTree} (h : Alternates s c before [] after) :
    StaysWithin s before after := by
  generalize hcalls : ([] : List Call) = calls at h
  induction h with
  | start => exact .refl s before
  | own earlier within ih => exact (ih hcalls).trans within
  | call schema earlier ih => simp at hcalls

/-- A compiler that leaves the tree alone leaves all changes to the program. -/
theorem Alternates.staysWithin_of_leavesTree (hc : c.LeavesTree) {calls : List Call}
    {after : FileTree} (h : Alternates s c before calls after) : StaysWithin s before after := by
  induction h with
  | start => exact .refl s before
  | own earlier within ih => exact ih.trans within
  | call schema earlier ih =>
    rw [hc]
    exact ih

/-- Compiling is at most a call. -/
theorem Alternates.compile (h : Alternates s c before st.calls st.tree) {schema : String}
    {verdict : Except Failure Outcome} (hrun : compile s c schema st = (verdict, st')) :
    Alternates s c before st'.calls st'.tree := by
  cases henabled : s.compiler.enabled with
  | false =>
    rw [compile_of_not_enabled henabled] at hrun
    rw [← (Prod.mk.inj hrun).2]
    exact h
  | true =>
    rw [compile_of_enabled henabled] at hrun
    rw [← (Prod.mk.inj hrun).2]
    exact h.call schema

/-- **The step**: whatever becomes of a file, the program has kept to its places. -/
theorem Alternates.generateFile (h : Alternates s c before st.calls st.tree) {path : Path}
    {result : Except Failure Generated} (hrun : generateFile s c path st = (result, st')) :
    Alternates s c before st'.calls st'.tree := by
  rcases generateFile_cases hrun with ⟨_, -, -, rfl⟩ | ⟨doc, _, tree, hrender, hwrite, -, rfl⟩ |
    ⟨doc, tree, verdict, hrender, hwrite, hcompile, -⟩
  · exact h
  · exact h.own (staysWithin_writeSchema hrender hwrite)
  · have hwritten : Alternates s c before (st.written s path doc tree).calls
        (st.written s path doc tree).tree := h.own (staysWithin_writeSchema hrender hwrite)
    exact hwritten.compile hcompile

/-- **The run**: so it is with any number of files, up to the first that fails. -/
theorem alternates_generateFiles (h : Alternates s c before st.calls st.tree)
    (paths : List Path) :
    Alternates s c before (generateFiles s c paths st).2.calls
      (generateFiles s c paths st).2.tree := by
  induction paths generalizing st with
  | nil => exact h
  | cons path paths ih =>
    have hfile : Alternates s c before (generateFile s c path st).2.calls
        (generateFile s c path st).2.tree := h.generateFile rfl
    rw [generateFiles_cons]
    split
    · exact hfile
    · exact ih hfile

theorem alternates_generateSchemas (s : Settings) (c : Compiler) (t : FileTree) :
    Alternates s c t (generateSchemas s c (.initial t)).2.calls
      (generateSchemas s c (.initial t)).2.tree := by
  cases hdiscover : discover s t with
  | error failure =>
    rw [generateSchemas_of_discover_error hdiscover]
    exact .start
  | ok inputs =>
    have hopening : Alternates s c t (State.opening s t inputs).calls
        (State.opening s t inputs).tree := .start
    rw [generateSchemas_of_discover hdiscover]
    exact alternates_generateFiles hopening inputs

/-! ## 5. The program -/

namespace Program

variable {env : Environment} {arguments : List String} {config level : Option String}
  {overrides : Overrides}

/-- A command line that is rejected, or asks for help, changes nothing. -/
theorem tree_run_of_stop {stop : Stop} (h : Request.parse arguments = .error stop) :
    (run env t arguments).tree = t := by
  rw [run, h]
  cases stop with
  | help => rfl
  | version => rfl
  | nothing => rfl
  | rejected rejection => rfl

/-- Showing a schema changes nothing. -/
theorem tree_render (file : String) : (render env t file config overrides level).tree = t := by
  rw [render]
  split
  · rfl
  · split
    · rfl
    · rfl

/-- Checking the settings changes nothing. -/
theorem tree_check : (check t config).tree = t := by
  rw [check]
  dsimp only
  split
  · rfl
  · split
    · rfl
    · rfl

theorem tree_generate_of_prepare_error {r : Report}
    (h : prepare env t config overrides level = .error r) :
    (generate env t config overrides level).tree = t := by
  rw [generate_of_prepare_error h]
  rfl

theorem tree_generate_of_prepare {filter : LogFilter}
    (h : prepare env t config overrides level = .ok (s, filter)) :
    (generate env t config overrides level).tree = (pass env t s).2.tree := by
  rw [generate_of_prepare h, tree_endingOf]

/-- What `generate` leaves of a tree is the tree, or what a pass leaves of it. -/
theorem tree_generate_cases {loaded : Settings} (hload : loadSettings t config = .ok loaded) :
    (generate env t config overrides level).tree = t ∨
      (generate env t config overrides level).tree =
        (pass env t (overrides.apply loaded)).2.tree := by
  cases hprepare : prepare env t config overrides level with
  | error report => exact Or.inl (tree_generate_of_prepare_error hprepare)
  | ok settled =>
    obtain ⟨loaded', hload', hsettings, -, -⟩ := prepare_eq_ok hprepare
    obtain rfl := Except.ok.inj (hload.symm.trans hload')
    rw [tree_generate_of_prepare hprepare, hsettings]
    exact Or.inr rfl

/-- **What the program changes.**  A command line that is rejected changes nothing, and neither does
one that asks for a schema to be shown or for the settings to be checked.  One that asks for schemas
to be generated changes nothing if the settings file cannot be loaded, the log filter is none, the
settings are at fault or the input directory cannot be listed.  Otherwise it may go on to a pass,
and the tree is left as the pass leaves it: by calls of the compiler, and between them by changes
that make directories at free places on the way of the output path, or write text files directly
in the output directory, each named after a type in allowed characters. -/
theorem run_changes (env : Environment) (t : FileTree) (arguments : List String) :
    (∀ stop, Request.parse arguments = .error stop → (run env t arguments).tree = t) ∧
    (∀ file config overrides level,
      Request.parse arguments = .ok ⟨.render file config overrides, level⟩ →
        (run env t arguments).tree = t) ∧
    (∀ config level, Request.parse arguments = .ok ⟨.check config, level⟩ →
      (run env t arguments).tree = t) ∧
    ∀ config overrides level,
      Request.parse arguments = .ok ⟨.generate config overrides, level⟩ →
        (∀ report, loadSettings t config = .error report → (run env t arguments).tree = t) ∧
        ∀ loaded s, loadSettings t config = .ok loaded → s = overrides.apply loaded →
          (∀ fault, LogFilter.choose env.readFilter env.logFilter level s.logLevel = .error fault →
            (run env t arguments).tree = t) ∧
          (∀ fault, s.fault? = some fault → (run env t arguments).tree = t) ∧
          (∀ failure, discover s t = .error failure → (run env t arguments).tree = t) ∧
          ((run env t arguments).tree = t ∨
            (run env t arguments).tree = (pass env t s).2.tree ∧
              Alternates s
                (Compiler.ofExecutable env.behaviour env.searchPath s.compiler.executable) t
                (pass env t s).2.calls (pass env t s).2.tree) := by
  refine ⟨fun stop h => tree_run_of_stop h, fun file config overrides level h => ?_,
    fun config level h => ?_, fun config overrides level h => ?_⟩
  · rw [run, h]
    exact tree_render file
  · rw [run, h]
    exact tree_check
  · rw [run_generate h]
    refine ⟨fun report hload => tree_generate_of_prepare_error (prepare_of_load_error hload), ?_⟩
    rintro loaded s hload rfl
    have hprepare : prepare env t config overrides level = _ := prepare_of_load hload
    refine ⟨fun fault hfilter => ?_, fun fault hfault => ?_, fun failure hdiscover => ?_, ?_⟩
    · rw [hfilter] at hprepare
      exact tree_generate_of_prepare_error hprepare
    · -- the log filter may be at fault as well, and is then reported first
      rw [hfault] at hprepare
      split at hprepare
      · exact tree_generate_of_prepare_error hprepare
      · exact tree_generate_of_prepare_error hprepare
    · rcases tree_generate_cases hload with htree | htree
      · exact htree
      · rw [htree, pass, generateSchemas_of_discover_error hdiscover]
        rfl
    · rcases tree_generate_cases hload with htree | htree
      · exact Or.inl htree
      · rw [htree]
        exact Or.inr ⟨rfl, alternates_generateSchemas _ _ _⟩

end Program

end SeriesSchema
