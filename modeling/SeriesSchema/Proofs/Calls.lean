import SeriesSchema.Proofs.Policies

/-!
# Calls of the compiler

What the compiler gets to see in a pass.  A pass publishes schemas: it reads an input, writes its
schema, and only then calls the compiler, on the tree that the writing left.  So a pass is a chain
of publications (`Publishes`), and what it did is said by the chain and by how it ended
(`EndsWith`).

* There is one call for each publication, in order (`generateFiles_publishes`).
* On the tree of the call, the schema is complete (`Publishes.read_schemaPath`); and nothing was
  written but the schemas of the chain (`Publishes.written`).
* The answers make the results, one by one, if the pass succeeds (`EndsWith.finished`).

Nothing is assumed of the inputs here: they may be overwritten by schemas.  A document is what the
input holds when its turn comes.

1. publications;
2. the answers of a compiler, and the ways a pass can end;
3. one file, and the files of a pass;
4. the pass.
-/

namespace SeriesSchema

open FileTree

variable {s : Settings} {c : Compiler}

/-! ## 1. Publications -/

/-- What was done for one input before the compiler was called. -/
structure Publication where
  /-- the path of the input -/
  source : Path
  document : Document
  /-- the files as they are when the schema is written -/
  tree : FileTree

namespace Publication

/-- The call of the compiler. -/
def call (s : Settings) (p : Publication) : Call :=
  s.callFor (s.schemaPath p.document) p.tree

/-- The result, given the answer to the call. -/
def result (s : Settings) (p : Publication) (answer : Answer) : Generated :=
  ⟨p.document.record, s.schemaPath p.document, answer.outcome⟩

end Publication

/-- Schemas are published one after the other: each input is read from the tree that the one before
has left, and its schema is written. -/
inductive Publishes (s : Settings) : FileTree → List Publication → FileTree → Prop
  | nil (t : FileTree) : Publishes s t [] t
  | cons {t last : FileTree} {p : Publication} {more : List Publication}
      (reads : renderFile s t p.source = .ok p.document)
      (writes : writeSchema s p.document t = (.ok (s.schemaPath p.document), p.tree))
      (rest : Publishes s p.tree more last) : Publishes s t (p :: more) last

namespace Publishes

variable {t last before : FileTree} {pubs : List Publication} {docs : List Document}

/-- **A schema is complete when the compiler is called for it.** -/
theorem read_schemaPath (h : Publishes s t pubs last) :
    ∀ p ∈ pubs, p.tree.read (s.schemaPath p.document) = .ok p.document.render := by
  induction h with
  | nil t => simp
  | cons reads writes rest ih =>
    intro p hmem
    rcases List.mem_cons.mp hmem with rfl | hmem
    · have hwritten := (Written.refl s _).writeSchema (namesFile_of_renderFile reads) writes
      exact hwritten.text [] p.document [] rfl (by simp)
    · exact ih p hmem

/-- Nothing is written but the schemas. -/
theorem written (h : Publishes s t pubs last) (hbefore : Written s before t docs) :
    Written s before last (docs ++ pubs.map Publication.document) := by
  induction h generalizing docs with
  | nil t =>
    rw [List.map_nil, List.append_nil]
    exact hbefore
  | cons reads writes rest ih =>
    rw [List.map_cons, ← List.singleton_append, ← List.append_assoc]
    exact ih (hbefore.writeSchema (namesFile_of_renderFile reads) writes)

end Publishes

/-! ## 2. Answers and ends -/

/-- The answers to some calls, made one after the other when others were made before. -/
def Compiler.answers (c : Compiler) (earlier : List Call) : List Call → List Answer
  | [] => []
  | call :: more => (c.start earlier call).1 :: c.answers (earlier ++ [call]) more

/-- The answer to each call depends on the calls before it. -/
theorem Compiler.getElem?_answers (c : Compiler) (earlier calls : List Call) (i : Nat) :
    (c.answers earlier calls)[i]? =
      calls[i]?.map fun call => (c.start (earlier ++ calls.take i) call).1 := by
  induction calls generalizing earlier i with
  | nil => simp [answers]
  | cons call more ih =>
    cases i with
    | zero => simp [answers]
    | succ i => simp [answers, ih]

theorem Compiler.length_answers (c : Compiler) (earlier calls : List Call) :
    (c.answers earlier calls).length = calls.length := by
  induction calls generalizing earlier with
  | nil => rfl
  | cons call more ih => rw [answers, List.length_cons, ih, List.length_cons]

/-- How a pass over some inputs ends that has published `pubs`, on the tree `last`: what it comes
to, and the tree it leaves. -/
inductive EndsWith (s : Settings) (c : Compiler) (earlier : List Call) (inputs : List Path)
    (pubs : List Publication) (last : FileTree) :
    Except Failure (List Generated) → FileTree → Prop
  /-- all inputs have been published; the answers make the results -/
  | finished (sources : inputs = pubs.map Publication.source) :
      EndsWith s c earlier inputs pubs last
        (.ok (List.zipWith (Publication.result s) pubs
          (c.answers earlier (pubs.map (Publication.call s))))) last
  /-- the next input is not read, or declares no type -/
  | unread {path : Path} {later : List Path} {failure : Failure}
      (sources : inputs = pubs.map Publication.source ++ path :: later)
      (fails : renderFile s last path = .error failure) :
      EndsWith s c earlier inputs pubs last (.error failure) last
  /-- the schema of the next input is not written -/
  | unwritten {path : Path} {later : List Path} {doc : Document} {failure : Failure}
      {tree : FileTree} (sources : inputs = pubs.map Publication.source ++ path :: later)
      (reads : renderFile s last path = .ok doc)
      (fails : writeSchema s doc last = (.error failure, tree)) :
      EndsWith s c earlier inputs pubs last (.error failure) tree
  /-- the policy ends the pass with the answer to the last call -/
  | refused {before : List Publication} {p : Publication} {later : List Path} {answer : Answer}
      (sources : inputs = pubs.map Publication.source ++ later) (isLast : pubs = before ++ [p])
      (isAnswer : answer = (c.start (earlier ++ before.map (Publication.call s)) (p.call s)).1)
      (policy : s.compiler.onFailure = .fail) (noSuccess : answer.isSuccess = false) :
      EndsWith s c earlier inputs pubs last
        (.error (answer.failure c.program (s.schemaPath p.document))) last

namespace EndsWith

variable {earlier : List Call} {inputs : List Path} {pubs : List Publication}
  {before last tree : FileTree} {result : Except Failure (List Generated)} {docs : List Document}

/-- A pass that has published one more schema before, and went on, ends in the same way. -/
theorem cons {p : Publication}
    (h : EndsWith s c (earlier ++ [p.call s]) inputs pubs last result tree) :
    EndsWith s c earlier (p.source :: inputs) (p :: pubs) last
      (result.map (p.result s (c.start earlier (p.call s)).1 :: ·)) tree := by
  cases h with
  | finished sources => exact .finished (by rw [sources, List.map_cons])
  | unread sources fails => exact .unread (by rw [sources, List.map_cons, List.cons_append]) fails
  | unwritten sources reads fails =>
    exact .unwritten (by rw [sources, List.map_cons, List.cons_append]) reads fails
  | @refused first q _ _ sources isLast isAnswer policy noSuccess =>
    have hlast : p :: pubs = (p :: first) ++ [q] := by rw [isLast, List.cons_append]
    refine .refused (by rw [sources, List.map_cons, List.cons_append]) hlast ?_ policy noSuccess
    rw [isAnswer, List.map_cons, List.append_assoc, List.singleton_append]

/-- A pass that succeeds has published the schemas of all its inputs. -/
theorem eq_of_ok {gs : List Generated} (h : EndsWith s c earlier inputs pubs last (.ok gs) tree) :
    inputs = pubs.map Publication.source ∧
      gs = List.zipWith (Publication.result s) pubs
        (c.answers earlier (pubs.map (Publication.call s))) := by
  cases h with
  | finished sources => exact ⟨sources, rfl⟩

/-- **The results**: there is one for each publication, with the outcome of the answer to its
call. -/
theorem getElem?_result {gs : List Generated}
    (h : EndsWith s c earlier inputs pubs last (.ok gs) tree) {i : Nat} {p : Publication}
    (hp : pubs[i]? = some p) :
    gs[i]? = some (p.result s
      (c.start (earlier ++ (pubs.map (Publication.call s)).take i) (p.call s)).1) := by
  rw [h.eq_of_ok.2, List.getElem?_zipWith, hp, c.getElem?_answers, List.getElem?_map, hp]
  rfl

theorem length_result {gs : List Generated}
    (h : EndsWith s c earlier inputs pubs last (.ok gs) tree) : gs.length = pubs.length := by
  rw [h.eq_of_ok.2, List.length_zipWith, c.length_answers, List.length_map, Nat.min_self]

/-- The end of a pass writes no further schema. -/
theorem written (h : EndsWith s c earlier inputs pubs last result tree)
    (hlast : Written s before last docs) : Written s before tree docs := by
  cases h with
  | finished | unread | refused => exact hlast
  | unwritten sources reads fails =>
    rcases writeSchema_cases fails with ⟨_, _, -, hadds⟩ | ⟨hok, -⟩
    · exact hlast.addsDirectories hadds
    · cases hok

end EndsWith

/-! ## 3. The files of a pass -/

/-- A call for a schema that has been published: the pass goes on with the outcome of the answer,
or ends with its failure, as the policy has it. -/
theorem compile_publication (henabled : s.compiler.enabled = true) (hc : c.LeavesTree)
    {p : Publication} {st st' : State} {verdict : Except Failure Outcome} (htree : st.tree = p.tree)
    (h : compile s c (s.schemaPath p.document) st = (verdict, st')) :
    st'.tree = p.tree ∧ st'.calls = st.calls ++ [p.call s] ∧
      (verdict = .ok (c.start st.calls (p.call s)).1.outcome ∨
        s.compiler.onFailure = .fail ∧ (c.start st.calls (p.call s)).1.isSuccess = false ∧
          verdict = .error
            ((c.start st.calls (p.call s)).1.failure c.program (s.schemaPath p.document))) := by
  have hcall : s.callFor (s.schemaPath p.document) st.tree = p.call s := by
    rw [htree, Publication.call]
  rw [compile_of_enabled henabled, hcall, verdict_judge] at h
  obtain ⟨hverdict, rfl⟩ := Prod.mk.inj h
  refine ⟨hc _ _, rfl, ?_⟩
  rw [← hverdict]
  split
  · exact Or.inl rfl
  · rename_i hends
    obtain ⟨hsuccess, hpolicy⟩ := not_or.mp hends
    exact Or.inr ⟨not_not.mp hpolicy, by simpa using hsuccess, rfl⟩

/-- **The run**: the files of a pass are published one after the other, and the compiler is called
for each. -/
theorem generateFiles_publishes (henabled : s.compiler.enabled = true) (hc : c.LeavesTree)
    {paths : List Path} {st st' : State} {result : Except Failure (List Generated)}
    (h : generateFiles s c paths st = (result, st')) :
    ∃ pubs last, Publishes s st.tree pubs last ∧
      st'.calls = st.calls ++ pubs.map (Publication.call s) ∧
      EndsWith s c st.calls paths pubs last result st'.tree := by
  induction paths generalizing st result with
  | nil =>
    obtain ⟨rfl, rfl⟩ := Prod.mk.inj h
    exact ⟨[], st.tree, .nil _, by simp, .finished rfl⟩
  | cons path paths ih =>
    obtain ⟨verdict, next, hfile⟩ : ∃ verdict next, generateFile s c path st = (verdict, next) :=
      ⟨_, _, rfl⟩
    rw [generateFiles_cons, hfile] at h
    rcases generateFile_cases hfile with ⟨failure, hrender, rfl, rfl⟩ |
      ⟨doc, failure, tree, hrender, hwrite, rfl, rfl⟩ |
      ⟨doc, tree, verdict, hrender, hwrite, hcompile, rfl⟩
    · obtain ⟨rfl, rfl⟩ := Prod.mk.inj h
      exact ⟨[], _, .nil _, by simp, .unread rfl hrender⟩
    · obtain ⟨rfl, rfl⟩ := Prod.mk.inj h
      exact ⟨[], _, .nil _, by simp [State.tell], .unwritten rfl hrender hwrite⟩
    · let p : Publication := ⟨path, doc, tree⟩
      obtain ⟨htree, hcalls, rfl | ⟨hpolicy, hsuccess, rfl⟩⟩ :=
        compile_publication (p := p) henabled hc rfl hcompile
      · -- the pass goes on, from the tree of the publication
        obtain ⟨hresult, rfl⟩ := Prod.mk.inj h
        obtain ⟨pubs, last, hpubs, hlater, hends⟩ := ih (Prod.ext rfl rfl)
        rw [htree] at hpubs
        rw [hcalls] at hlater hends
        refine ⟨p :: pubs, last, .cons hrender hwrite hpubs, ?_, ?_⟩
        · rw [hlater, List.map_cons, List.append_assoc, List.singleton_append]
          rfl
        · rw [← hresult]
          exact hends.cons
      · obtain ⟨rfl, rfl⟩ := Prod.mk.inj h
        refine ⟨[p], tree, .cons hrender hwrite (.nil _), hcalls, ?_⟩
        rw [htree]
        have hlast : [p] = [] ++ [p] := rfl
        exact .refused rfl hlast (by simp) hpolicy hsuccess

/-! ## 4. The pass -/

/-- **What the compiler is called for** in a pass, whatever the pass comes to.  The schemas of the
inputs are published one after the other, and nothing else is written.  For each there is one call,
in the same order; it has the arguments for this schema, and finds it complete.  If the inputs
cannot be listed, there is none.  Otherwise the pass ends as `EndsWith` has it: an input that is
not read or whose schema is not written is the last one, and there is no call for it.  If the pass
succeeds, the answers are what its results report, one by one. -/
theorem generateSchemas_calls (henabled : s.compiler.enabled = true) (hc : c.LeavesTree)
    {t : FileTree} {result : Except Failure (List Generated)} {st : State}
    (h : generateSchemas s c (.initial t) = (result, st)) :
    ∃ pubs last, Publishes s t pubs last ∧
      Written s t st.tree (pubs.map Publication.document) ∧
      st.calls = pubs.map (Publication.call s) ∧
      (∀ p ∈ pubs,
        (p.call s).arguments = ["--proto_path=" ++ s.protoOutDir,
          "--java_out=" ++ s.outputJavaDir, s.schemaPath p.document] ∧
        (p.call s).tree.read (s.schemaPath p.document) = .ok p.document.render) ∧
      ((∃ failure, discover s t = .error failure ∧ result = .error failure ∧ pubs = []) ∨
        ∃ inputs, discover s t = .ok inputs ∧ EndsWith s c [] inputs pubs last result st.tree) ∧
      ∀ gs, result = .ok gs → gs.length = pubs.length ∧
        ∀ (i : Nat) (p : Publication), pubs[i]? = some p →
          gs[i]? = some (p.result s (c.start (st.calls.take i) (p.call s)).1) := by
  cases hdiscover : discover s t with
  | error failure =>
    rw [generateSchemas_of_discover_error hdiscover] at h
    obtain ⟨rfl, rfl⟩ := Prod.mk.inj h
    exact ⟨[], t, .nil t, .refl s t, rfl, by simp, Or.inl ⟨failure, rfl, rfl, rfl⟩, nofun⟩
  | ok inputs =>
    rw [generateSchemas_of_discover hdiscover] at h
    obtain ⟨pubs, last, hpubs, hcalls, hends⟩ := generateFiles_publishes henabled hc h
    have hcalls' : st.calls = pubs.map (Publication.call s) := hcalls
    have hwritten : Written s t st.tree (pubs.map Publication.document) :=
      hends.written (hpubs.written (.refl s t))
    refine ⟨pubs, last, hpubs, hwritten, hcalls', fun p hmem => ⟨rfl, hpubs.read_schemaPath p hmem⟩,
      Or.inr ⟨inputs, rfl, hends⟩, ?_⟩
    rintro gs rfl
    refine ⟨hends.length_result, fun i p hp => ?_⟩
    rw [hcalls']
    exact hends.getElem?_result hp

/-- Two schemas are published, and the compiler is called for both; the second call fails. -/
theorem generateSchemas_calls_twoFiles :
    TwoFiles.settings.compiler.enabled = true ∧ TwoFiles.compiler.LeavesTree ∧
    ∃ st pubs last, generateSchemas TwoFiles.settings TwoFiles.compiler (.initial TwoFiles.tree) =
        (.ok TwoFiles.results, st) ∧
      Publishes TwoFiles.settings TwoFiles.tree pubs last ∧
      Written TwoFiles.settings TwoFiles.tree st.tree (pubs.map Publication.document) ∧
      st.calls = pubs.map (Publication.call TwoFiles.settings) ∧
      pubs.map Publication.source = (["in/A.java", "in/B.java"] : List Path) ∧
      (∀ p ∈ pubs, (p.call TwoFiles.settings).tree.read (TwoFiles.settings.schemaPath p.document) =
        .ok p.document.render) ∧
      ∀ (i : Nat) (p : Publication), pubs[i]? = some p →
        TwoFiles.results[i]? = some (p.result TwoFiles.settings
          (TwoFiles.compiler.start (st.calls.take i) (p.call TwoFiles.settings)).1) := by
  have henabled : TwoFiles.settings.compiler.enabled = true := rfl
  have hc : TwoFiles.compiler.LeavesTree := Compiler.leavesTree_scripted _ _
  have hrun : generateSchemas TwoFiles.settings TwoFiles.compiler (.initial TwoFiles.tree) =
      (.ok TwoFiles.results, _) := Prod.ext TwoFiles.succeeds rfl
  obtain ⟨pubs, last, hpubs, hwritten, hcalls, hseen, hend, hresults⟩ :=
    generateSchemas_calls henabled hc hrun
  have hsources : pubs.map Publication.source = (["in/A.java", "in/B.java"] : List Path) := by
    rcases hend with ⟨_, -, herror, -⟩ | ⟨inputs, hinputs, hends⟩
    · cases herror
    · rw [TwoFiles.discovers] at hinputs
      obtain rfl := Except.ok.inj hinputs
      exact hends.eq_of_ok.1.symm
  exact ⟨henabled, hc, _, pubs, last, hrun, hpubs, hwritten, hcalls, hsources,
    fun p hmem => (hseen p hmem).2, (hresults _ rfl).2⟩

end SeriesSchema
