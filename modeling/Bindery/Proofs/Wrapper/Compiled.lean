import Bindery.Proofs.Wrapper.Reading

/-!
# Exactly one declaration is compiled

A type that is declared twice has one declaration under the attributes of a version and the other
under their complement, so that whatever is enabled one of the two is compiled, and that one
registers the type accessor where it is there.
-/

namespace Bindery.Wrapper

open Emit Predicate Text

variable {env : Env} {info : Info} {kind : Kind}

/-- The declarations of a type declared twice. -/
def straddledDeclarations (g : Guard) (b b' : List String) : List Declaration :=
  [⟨[g.compileAttribute {}, g.docAttribute {}], b⟩, ⟨[g.complementAttribute {}], b'⟩]

/-! ## What is read back -/

/-- An attribute neither opens a declaration nor parts it from its attributes. -/
theorem openingLine_ne_attribute (env : Env) {l : String} (h : l.toList.head? = some '#') :
    openingLine env ≠ l := openingLine_ne (by rw [h]; decide)

theorem declarations_once {parts before after : List String} (entries : List String)
    (hparts : ∀ l ∈ parts, IsPart l) (hbefore : ∀ l ∈ before, l = "")
    (hafter : openingLine env ∉ after) :
    declarations env (before ++ blockLines env parts entries ++ after) =
      [⟨[], blockLines env parts entries⟩] := by
  have hopening : openingLine env ≠ "" := openingLine_ne (by simp)
  unfold declarations
  rw [List.append_assoc, declarationsFrom_blank hopening hbefore,
    declarationsFrom_blockLines env hparts, declarationsFrom_eq_nil hafter]

theorem declarations_twice (env : Env) {parts : List String} (front : List String)
    (sysCrate fn : String) (v : Version) (hparts : ∀ l ∈ parts, IsPart l) :
    declarations env (straddledLines env sysCrate parts front fn v) =
      straddledDeclarations ⟨v.predicate none⟩
        (blockLines env parts (entriesWith sysCrate front (some fn)))
        (blockLines env parts (entriesWith sysCrate front none)) := by
  have hempty : openingLine env ≠ "" := openingLine_ne (by simp)
  have hcomplement := head?_complementAttribute ⟨v.predicate none⟩
  have hnewline : '\n' ∉ (Guard.mk (v.predicate none)).cfg.toList :=
    Version.newline_notMem_predicate (by simp) v
  have hlast := declarationsFrom_blockLines env hparts
    [(Guard.mk (v.predicate none)).complementAttribute {}] (entriesWith sysCrate front none) []
  rw [List.append_nil, declarationsFrom] at hlast
  unfold declarations straddledLines
  rw [declarationsFrom_empty hempty,
    declarationsFrom_guarded v (openingLine_ne_attribute env (head?_render _)),
    declarationsFrom_blockLines env hparts, declarationsFrom_empty hempty,
    declarationsFrom_attribute (openingLine_ne_attribute env hcomplement)
      (attribute_ne_empty hcomplement),
    fields_of_notMem (newline_notMem_complement hnewline _)]
  simp [straddledDeclarations, hlast]

/-- The two declarations of a type differ in the line of the type accessor. -/
theorem blockLines_some (env : Env) (parts front : List String) (sysCrate fn : String) :
    ∃ head tail,
      blockLines env parts (entriesWith sysCrate front (some fn)) =
        head ++ ("\t\t" ++ typeEntry sysCrate fn) :: tail ∧
      blockLines env parts (entriesWith sysCrate front none) = head ++ tail :=
  ⟨openingLine env :: (parts ++ "" :: "\tmatch fn \x7b" :: front.map ("\t\t" ++ ·)),
    ["\t\x7d", "\x7d"], by simp [blockLines, functionLines, entriesWith],
    by simp [blockLines, functionLines, entriesWith]⟩

theorem count_eq_zero_of_blank {before : List String} (h : ∀ l ∈ before, l = "") :
    before.count (openingLine env) = 0 := by
  refine List.count_eq_zero_of_not_mem fun hmem => ?_
  have hempty : openingLine env ≠ "" := openingLine_ne (by simp)
  exact hempty (h _ hmem)

theorem count_straddledLines {parts front : List String} {sysCrate fn : String} {v : Version}
    (hparts : ∀ l ∈ parts, IsPart l) :
    (straddledLines env sysCrate parts front fn v).count (openingLine env) = 2 := by
  have hempty : "" ≠ openingLine env := (openingLine_ne (by simp)).symm
  have hrender : (Guard.mk (v.predicate none)).render true {} ≠ openingLine env :=
    (openingLine_ne_attribute env (head?_render _)).symm
  have hcomplement : (Guard.mk (v.predicate none)).complementAttribute {} ≠ openingLine env :=
    (openingLine_ne_attribute env (head?_complementAttribute _)).symm
  unfold straddledLines
  rw [List.count_cons_of_ne hempty, List.count_cons_of_ne hrender, List.count_append,
    count_blockLines env hparts, List.count_cons_of_ne hempty, List.count_cons_of_ne hcomplement,
    count_blockLines env hparts]

/-! ## What is compiled -/

/-- Of a declaration under attributes and one under their complement one is compiled. -/
theorem filter_straddled (s : Settings) (v : Version) (b b' : List String) :
    (straddledDeclarations ⟨v.predicate none⟩ b b').filter (·.isCompiled s) =
      if s.feature v.feature || s.feature docsFeature then
        [⟨[(Guard.mk (v.predicate none)).compileAttribute {},
          (Guard.mk (v.predicate none)).docAttribute {}], b⟩]
      else [⟨[(Guard.mk (v.predicate none)).complementAttribute {}], b'⟩] := by
  have hsecond : Declaration.isCompiled s ⟨[(Guard.mk (v.predicate none)).complementAttribute {}],
      b'⟩ = !(s.feature v.feature || s.feature docsFeature) := by
    simp only [Declaration.isCompiled, List.all_cons, List.all_nil, Bool.and_true]
    exact admits_versionComplement s v 0
  unfold straddledDeclarations
  rw [List.filter_cons, List.filter_cons, List.filter_nil, isCompiled_guarded, hsecond]
  cases s.feature v.feature || s.feature docsFeature with
  | true => rfl
  | false => rfl

/-- The one that is compiled registers the type accessor where its version is enabled. -/
theorem compiled_straddled {fn : String} {v : Version} {b b' : List String} (s : Settings)
    (hneeded : Guard.isNeeded (some v) env.config.minVersion = true)
    (hb : b.any registersType = true) (hb' : b'.any registersType = false) :
    ∃ d, (straddledDeclarations ⟨v.predicate none⟩ b b').filter (·.isCompiled s) = [d] ∧
      (d.hasType = true ↔
        (some fn).isSome = true ∧ ∀ w ∈ some v, s.Enables env.config.minVersion w) := by
  have henables := enables_iff_of_isNeeded (s := s) hneeded
  rw [filter_straddled]
  by_cases henabled : (s.feature v.feature || s.feature docsFeature) = true
  · refine ⟨_, if_pos henabled, ?_⟩
    rw [Declaration.hasType, hb]
    simpa using henables.2 henabled
  · refine ⟨_, if_neg henabled, ?_⟩
    rw [Declaration.hasType, hb']
    simpa using fun h => henabled (henables.1 h)

/-- Where the baseline guarantees the version of a type accessor, it is enabled. -/
theorem enables_of_not_needed {fn : Option String} {version : Option Version} (s : Settings)
    (h : ∀ f v, fn = some f → version = some v →
      Guard.isNeeded version env.config.minVersion = false) :
    fn.isSome = true ↔
      fn.isSome = true ∧ ∀ v ∈ version, s.Enables env.config.minVersion v := by
  refine ⟨fun hfn => ⟨hfn, fun v hv => ?_⟩, And.left⟩
  obtain ⟨f, rfl⟩ := Option.isSome_iff_exists.1 hfn
  obtain rfl : version = some v := hv
  exact enables_of_not_isNeeded (Bool.eq_false_iff.1 (h f v rfl rfl))

/-- Two declarations are in some lines, the first with a line for the type accessor, which came with
a version that the baseline does not guarantee. -/
structure DeclaresTwice (env : Env) (kind : Kind) (ls : List String) (fn : String) (v : Version)
    (sysCrate : String) (head tail : List String) : Prop where
  accessor : kind.accessor = (some fn, some v)
  newer : env.guarantees none (some v) = .ok false
  crate : env.mainSysCrate = .ok sysCrate
  /-- The second differs from the first by the line for the accessor. -/
  lines : ls = "" :: (Guard.mk (v.predicate none)).render true {} ::
    ((head ++ ("\t\t" ++ typeEntry sysCrate fn) :: tail) ++
      "" :: (Guard.mk (v.predicate none)).complementAttribute {} :: (head ++ tail))
  /-- It is under the complement of the attributes of the first. -/
  read_back : declarations env ls = straddledDeclarations ⟨v.predicate none⟩
    (head ++ ("\t\t" ++ typeEntry sysCrate fn) :: tail) (head ++ tail)
  /-- One of the two predicates is active. -/
  opposite : ∃ c d, ofAttribute? ((Guard.mk (v.predicate none)).compileAttribute {}) = some c ∧
    ofAttribute? ((Guard.mk (v.predicate none)).complementAttribute {}) = some d ∧
    ∀ s, ∃ a, isActive s c = .ok a ∧ isActive s d = .ok (!a)

/-- The lines of a type that is declared twice hold its two declarations. -/
theorem exists_declaresTwice {parts front : List String} {sysCrate fn : String} {v : Version}
    (haccessor : kind.accessor = (some fn, some v))
    (hneeded : Guard.isNeeded (some v) env.config.minVersion = true)
    (hcrate : env.mainSysCrate = .ok sysCrate) (hparts : ∀ l ∈ parts, IsPart l) :
    ∃ head tail, DeclaresTwice env kind (straddledLines env sysCrate parts front fn v) fn v
      sysCrate head tail := by
  obtain ⟨head, tail, hsome, hnone⟩ := blockLines_some env parts front sysCrate fn
  refine ⟨head, tail, haccessor, ?_, hcrate, ?_, ?_, _, _,
    Guard.ofAttribute?_compileAttribute _ _, Guard.ofAttribute?_complementAttribute _ _,
    fun s => ⟨_, isActive_versionPredicate s v, isActive_versionComplement s v⟩⟩
  · rw [guarantees_main, hneeded]
    rfl
  · rw [← hsome, ← hnone]
    rfl
  · rw [declarations_twice env front sysCrate fn v hparts, hsome, hnone]

/-- Some lines declare a type so that exactly one declaration is compiled. -/
structure DeclaresOnce (env : Env) (kind : Kind) (ls : List String) : Prop where
  /-- No line that opens a declaration is anywhere else. -/
  length_eq : (declarations env ls).length = ls.count (openingLine env)
  /-- There is one declaration without attributes, or there are two. -/
  once_or_twice : (∃ b, declarations env ls = [⟨[], b⟩] ∧
      ¬∃ fn v, kind.accessor = (some fn, some v) ∧ env.guarantees none (some v) = .ok false) ∨
    ∃ fn v sysCrate head tail, DeclaresTwice env kind ls fn v sysCrate head tail
  /-- One is compiled, and registers the type accessor where there is one and its version is
  enabled. -/
  compiled : ∀ s : Settings, ∃ d, (declarations env ls).filter (·.isCompiled s) = [d] ∧
    (d.hasType = true ↔ kind.accessor.1.isSome = true ∧
      ∀ v ∈ kind.accessor.2, s.Enables env.config.minVersion v)

/-- Whatever is enabled, exactly one declaration of a type is compiled. -/
theorem one_declaration_compiled (h : (render env info kind).result = .ok ()) :
    ∃ ls, (render env info kind).writes = ls.flatMap (fun l => [l, "\n"]) ∧
      DeclaresOnce env kind ls := by
  obtain ⟨⟨sysCrate, parts, front, before, after, hcrate, hparts, hfront, hbefore, hafter, hprints⟩,
    hversion⟩ | ⟨f, v, hfn, hv, hneeded, sysCrate, parts, front, hcrate, hparts, hfront, hprints⟩ :=
    prints_render h
  · have hread :=
      declarations_once (entriesWith sysCrate front kind.accessor.1) hparts hbefore hafter
    refine ⟨_, hprints.writes, ?_, .inl ⟨_, hread, ?_⟩, fun s =>
      ⟨⟨[], blockLines env parts (entriesWith sysCrate front kind.accessor.1)⟩, ?_, ?_⟩⟩
    · rw [hread, List.count_append, List.count_append, count_blockLines env hparts,
        count_eq_zero_of_blank hbefore, List.count_eq_zero_of_not_mem hafter]
      rfl
    · rintro ⟨fn, v, haccessor, hguarantees⟩
      rw [haccessor] at hversion
      rw [guarantees_main, hversion fn v rfl rfl] at hguarantees
      cases hguarantees
    · rw [hread]
      rfl
    · rw [← enables_of_not_needed s hversion, Declaration.hasType,
        any_registersType env hparts hfront]
  · have haccessor : kind.accessor = (some f, some v) := Prod.ext hfn hv
    rw [hv] at hneeded
    have hread := declarations_twice env front sysCrate f v hparts
    obtain ⟨head, tail, htwice⟩ := exists_declaresTwice haccessor hneeded hcrate hparts
    refine ⟨_, hprints.writes, ?_, .inr ⟨f, v, sysCrate, head, tail, htwice⟩, fun s => ?_⟩
    · rw [hread, count_straddledLines hparts]
      rfl
    · rw [hread, haccessor]
      exact compiled_straddled s hneeded (any_registersType env hparts hfront (some f))
        (any_registersType env hparts hfront none)

/-- A boxed type whose accessor came with a version that is enabled. -/
theorem one_declaration_compiled_boxed : ∃ ls d,
    (render ⟨{ namespaces := [⟨"Gdk", "gdk", "ffi", none⟩] }, {}⟩
      ⟨.string "Rectangle", "GdkRectangle", .everywhere, none, []⟩
      (.boxed ⟨"copy", false, "free", false, {}, some "get_type", some ⟨3, 24, 0⟩⟩)).writes =
        ls.flatMap (fun l => [l, "\n"]) ∧
    (declarations ⟨{ namespaces := [⟨"Gdk", "gdk", "ffi", none⟩] }, {}⟩ ls).filter
      (·.isCompiled ⟨fun f => f == "v3_24", fun _ => false⟩) = [d] ∧ d.hasType = true := by
  have hrender : (render ⟨{ namespaces := [⟨"Gdk", "gdk", "ffi", none⟩] }, {}⟩
      ⟨.string "Rectangle", "GdkRectangle", .everywhere, none, []⟩
      (.boxed ⟨"copy", false, "free", false, {}, some "get_type", some ⟨3, 24, 0⟩⟩)).result =
        .ok () := rfl
  obtain ⟨ls, hls, honce⟩ := one_declaration_compiled hrender
  obtain ⟨d, hd, htype⟩ := honce.compiled ⟨fun f => f == "v3_24", fun _ => false⟩
  refine ⟨ls, d, hls, hd, htype.2 ⟨rfl, fun v hv => ?_⟩⟩
  obtain rfl := Option.some.inj hv
  exact .inr (.inl (by decide))

end Bindery.Wrapper
