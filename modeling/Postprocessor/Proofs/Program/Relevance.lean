import Postprocessor.Proofs.Program.Effects

/-!
# Proofs — what the output depends on

The standard handlers read the parameters that they document, and no event without a handler has an
effect.  So records that differ in nothing else have the same output.

* `Handler.parameters`: the parameters that a handler documents; `action_restrict` says that it
  reads no others.
* `Event.relevant?`, `Trace.relevant`: what is left of an event, and of records, without what no
  handler reads.
* `Program.Alike`: two runs that put out the same.
* `alike_of_relevant`: records that are alike in what the handlers read have the same output.
-/

namespace Postprocessor

/-! ### Parameters -/

/-- The parameters under some keys, in the order of the keys. -/
def Params.restrict (keys : List String) (params : Params) : Params :=
  keys.filterMap fun key => (params.lookup key).map (key, ·)

theorem Params.lookup_restrict (keys : List String) (params : Params) (key : String) :
    (params.restrict keys).lookup key = if key ∈ keys then params.lookup key else none := by
  induction keys with
  | nil => simp [restrict]
  | cons k ks ih =>
      by_cases hk : key = k
      · subst hk
        cases hv : params.lookup key with
        | none =>
            have rest : params.restrict (key :: ks) = params.restrict ks :=
              List.filterMap_cons_none (by rw [hv]; rfl)
            rw [rest, ih, hv, ite_self, ite_self]
        | some v =>
            have first : params.restrict (key :: ks) = (key, v) :: params.restrict ks :=
              List.filterMap_cons_some (by rw [hv]; rfl)
            simp [first]
      · have other : (key == k) = false := by simpa using hk
        have same : (params.restrict (k :: ks)).lookup key = (params.restrict ks).lookup key := by
          cases hv : params.lookup k <;> simp [restrict, hv, List.lookup_cons, other]
        rw [same, ih]
        simp [hk]

/-- The parameters that a handler documents. -/
def Handler.parameters : Handler → List String
  | .feedSpin => ["spin", "spin_direction"]
  | .rapidMove => ["xpos", "ypos", "zpos"]
  | .line => ["xpos", "ypos", "zpos", "feed"]
  | .machinePlane => ["machine_plane"]
  | .changeTool => ["tool_id_string", "tool_number"]
  | .message => ["message"]
  | .absoluteMode | .endOfFile => []

/-- A handler reads the parameters that it documents, and no others. -/
theorem Handler.action_restrict {ι : Type} (h : Handler) (params : Params) :
    (h.action (params.restrict h.parameters) : Behaviour ι Unit) = h.action params := by
  have read : ∀ key ∈ h.parameters,
      (params.restrict h.parameters).lookup key = params.lookup key :=
    fun key hk => (Params.lookup_restrict _ _ _).trans (if_pos hk)
  have get : ∀ key ∈ h.parameters, (params.restrict h.parameters).get key = params.get key :=
    fun key hk => congrArg (Option.getD · Value.null) (read key hk)
  have axes (inside : ["xpos", "ypos", "zpos"] ⊆ h.parameters) :
      target (params.restrict h.parameters) = target params := by
    funext axis
    cases axis with
    | x => exact get "xpos" (inside (by decide))
    | y => exact get "ypos" (inside (by decide))
    | z => exact get "zpos" (inside (by decide))
    | a | b | c => rfl
  cases h with
  | feedSpin =>
      rw [action, action, spin, spin, get "spin" (by decide), get "spin_direction" (by decide)]
  | rapidMove => rw [action, action, axes (by decide)]
  | line => rw [action, action, axes (by decide), get "feed" (by decide)]
  | machinePlane => rw [action, action, plane, plane, get "machine_plane" (by decide)]
  | changeTool =>
      rw [action, action, tool, tool, toolOf, toolOf, get "tool_id_string" (by decide),
        get "tool_number" (by decide)]
  | message => rw [action, action, comment, comment, read "message" (by decide)]
  | absoluteMode | endOfFile => rfl

/-! ### Events -/

/-- What is left of an event without what no handler reads.  Nothing is left if it has no
handler. -/
def Event.relevant? (e : Event) : Option Event :=
  (Handler.ofEvent? e.name).map fun h => ⟨e.name, e.params.restrict h.parameters⟩

/-- What is left of records without what no handler reads: the names of the standard events, each
with the parameters that its handler documents, in the order of the records. -/
def Trace.relevant (records : List Trace.Record) : List Event :=
  records.filterMap fun r => r.event.relevant?

namespace Event

/-- An event does what is left of it does. -/
theorem onWork_eq (e : Event) : e.onWork = e.relevant?.elim (pure ()) onWork := by
  rw [relevant?]
  cases h : Handler.ofEvent? e.name with
  | none => rw [onWork, h, Option.map_none, Option.elim_none]
  | some handler =>
      rw [Option.map_some, Option.elim_some, onWork, onWork, h]
      exact congrArg Behaviour.onWork (handler.action_restrict e.params).symm

/-- Events do what is left of them does. -/
theorem forM_onWork (es : List Event) :
    es.forM onWork = (es.filterMap relevant?).forM onWork := by
  induction es with
  | nil => rfl
  | cons e es ih =>
      rw [List.forM, onWork_eq, ih]
      cases h : e.relevant? with
      | none =>
          rw [List.filterMap_cons_none h, Option.elim_none]
          exact pure_bind ..
      | some e' => rw [List.filterMap_cons_some h, Option.elim_some, List.forM]

end Event

/-! ### Output -/

namespace Program

/-- Two runs of programs put out the same. -/
structure Alike (x y : Except Failure Unit × Program Handler) : Prop where
  /-- Both end normally, or with the same failure. -/
  outcome : x.1 = y.1
  warnings : x.2.warnings = y.2.warnings
  /-- The machines and the lines of all files are the same. -/
  writer : x.2.writer = y.2.writer
  generated : (x.2.run generate).1 = (y.2.run generate).1
  files : (x.2.run generateFiles).1 = (y.2.run generateFiles).1
  /-- Generating files warns of the same. -/
  warnings_files : (x.2.run generateFiles).2.warnings = (y.2.run generateFiles).2.warnings

/-- Two runs with the same outcome and the same work put out the same. -/
theorem alike_of_work {x y : Except Failure Unit × Program Handler}
    (hx : x.2.registry = Handler.registry) (hy : y.2.registry = Handler.registry)
    (outcome : x.1 = y.1) (work : x.2.work = y.2.work) : Alike x y := by
  have run {α : Type} {step : Step (Program Handler) α} {step' : Step Work α}
      (seen : Seen Handler.registry step step') :
      (x.2.run step).1 = (y.2.run step).1 ∧ (x.2.run step).2.work = (y.2.run step).2.work := by
    have left := seen.run hx
    rw [work, seen.run hy] at left
    exact ⟨(Prod.mk.inj left).1.symm, (Prod.mk.inj left).2.symm⟩
  have warnings {p q : Program Handler} (h : p.work = q.work) : p.warnings = q.warnings :=
    congrArg (fun w : Work => w.warnings.map Notice.message) h
  exact ⟨outcome, warnings work, congrArg Work.writer work, (run seen_generate).1,
    (run seen_generateFiles).1, warnings (run seen_generateFiles).2⟩

/-- **Only what the handlers document has an influence.**  Records of which the same is left without
what no handler reads have the same output, whatever their indices, their other parameters and the
events without handlers between them are. -/
theorem alike_of_relevant (c : Config) {records records' : List Trace.Record}
    (h : Trace.relevant records = Trace.relevant records') :
    Alike (processed c records) (processed c records') := by
  have left := work_processed c records
  have right := work_processed c records'
  rw [Event.forM_onWork, List.filterMap_map] at left right
  have same : ((processed c records).1, (processed c records).2.work) =
      ((processed c records').1, (processed c records').2.work) := by
    rw [← left, ← right]
    exact congrArg (fun es : List Event => es.forM Event.onWork (Work.start c)) h
  obtain ⟨outcome, work⟩ := Prod.mk.inj same
  exact alike_of_work (registry_processed c records) (registry_processed c records') outcome work

/-- A move with a parameter that no handler reads, an event without a handler, and the end. -/
def recordsAtLength : List Trace.Record :=
  [⟨"Line", 7, [("feed", .int 60), ("depth", .int 2), ("xpos", .int 1)]⟩,
    ⟨"ToolPath", 3, [("name", .text "pocket")]⟩, ⟨"EndOfFile", 9, [("xpos", .int 5)]⟩]

/-- The same move and the end. -/
def recordsInShort : List Trace.Record :=
  [⟨"Line", 0, [("xpos", .int 1), ("feed", .int 60)]⟩, ⟨"EndOfFile", 1, []⟩]

/-- The two have the same output. -/
theorem alike_recordsAtLength :
    Trace.relevant recordsAtLength = Trace.relevant recordsInShort ∧
      Alike (processed {} recordsAtLength) (processed {} recordsInShort) :=
  ⟨rfl, alike_of_relevant {} rfl⟩

end Program

end Postprocessor
