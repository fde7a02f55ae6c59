import Clearing.Sql.Session

/-!
# Setting up the schema

The objects of the schema are created one after the other. Nothing is sent behind the first that is refused, which
the error names, and every object that is sent stands behind the tables it refers to. Whether the database answers at
all is asked by a single statement.
-/

namespace Clearing.Sql

variable {s : Session} {objects : List SchemaObject}

/-! ## The order of the objects -/

namespace SchemaObject

/-- The names of the tables that the definition of an object refers to. -/
def references : SchemaObject → List String
  | .table relation => relation.columns.flatMap fun c => c.rules.filterMap fun
    | .references target _ => some target
    | _ => none
  | .pendingIndex => [Relation.outbox.name]

/-- Every object stands behind the tables that it refers to. -/
def Founded : (before : List String) → List SchemaObject → Prop
  | _, [] => True
  | before, object :: rest => (∀ table ∈ object.references, table ∈ before) ∧ Founded (object.name :: before) rest

instance decidableFounded : (before : List String) → (objects : List SchemaObject) → Decidable (Founded before objects)
  | _, [] => inferInstanceAs (Decidable True)
  | before, object :: rest =>
    have := decidableFounded (object.name :: before) rest
    inferInstanceAs (Decidable (_ ∧ _))

theorem founded_all : Founded [] all := by decide

theorem Founded.earlier {names : List String} {before after : List SchemaObject} {object : SchemaObject}
    (h : Founded names (before ++ object :: after)) {table : String} (htable : table ∈ object.references) :
    table ∈ names ∨ ∃ x ∈ before, x.name = table := by
  induction before generalizing names with
  | nil => exact .inl (h.1 table htable)
  | cons x before ih =>
      rcases ih h.2 with hnames | ⟨y, hy, hname⟩
      · rcases List.mem_cons.mp hnames with rfl | hnames
        · exact .inr ⟨x, List.mem_cons_self, rfl⟩
        · exact .inl hnames
      · exact .inr ⟨y, List.mem_cons_of_mem x hy, hname⟩

theorem referred_before {before after : List SchemaObject} {object : SchemaObject}
    (h : all = before ++ object :: after) {table : String} (htable : table ∈ object.references) :
    ∃ x ∈ before, x.name = table :=
  ((h ▸ founded_all).earlier htable).resolve_left List.not_mem_nil

end SchemaObject

/-! ## Up to the first refusal -/

namespace Session

/-- The session after the statements that create these objects, whatever was answered. -/
def creating (objects : List SchemaObject) (s : Session) : Session :=
  { s with
    script := s.script.drop objects.length
    sent := s.sent ++ objects.map .create }

/-- None of the next answers, as many as this, refuses. -/
def Accepts (s : Session) (count : Nat) : Prop := ∀ answer ∈ s.script.take count, answer.isOk = true

/-- What may become of creating objects one after the other. -/
inductive Creates (objects : List SchemaObject) (s : Session) : Except String Unit × Session → Prop where
  | done (accepted : s.Accepts objects.length) : Creates objects s (.ok (), s.creating objects)
  | refused {before after : List SchemaObject} {object : SchemaObject} {refusal : Refusal}
      (stopped : objects = before ++ object :: after) (accepted : s.Accepts before.length)
      (answered : s.script[before.length]? = some (.error refusal)) :
      Creates objects s (.error (notCreated object (.refused refusal)), s.creating (before ++ [object]))

theorem sending_create (s : Session) (object : SchemaObject) : s.sending (.create object) = s.creating [object] := by
  simp [sending, creating, remaining, refusesEnd]

theorem creating_creating (s : Session) (object : SchemaObject) (objects : List SchemaObject) :
    (s.creating [object]).creating objects = s.creating (object :: objects) := by
  simp [creating, List.append_assoc]

theorem accepts_succ {s : Session} {object : SchemaObject} {count : Nat} :
    s.Accepts (count + 1) ↔ (s.answer (.create object)).isOk = true ∧ (s.creating [object]).Accepts count := by
  cases hscript : s.script with
  | nil => simp [Accepts, creating, answer, scriptAnswer, hscript, Except.isOk, Except.toBool]
  | cons first rest =>
      cases first <;> simp [Accepts, creating, answer, scriptAnswer, hscript, Except.isOk, Except.toBool]

theorem not_accepts {index count : Nat} {refusal : Refusal} (hindex : index < count)
    (h : s.script[index]? = some (.error refusal)) : ¬ s.Accepts count := by
  intro haccepts
  have htake : (s.script.take count)[index]? = some (.error refusal) := by rw [List.getElem?_take_of_lt hindex, h]
  cases haccepts _ (List.mem_of_getElem? htake)

theorem script_of_answer_error {object : SchemaObject} {f : Failure} (h : s.answer (.create object) = .error f) :
    ∃ refusal, f = .refused refusal ∧ s.script[0]? = some (.error refusal) := by
  cases hscript : s.script with
  | nil => simp [answer, scriptAnswer, hscript] at h
  | cons first rest =>
      cases first with
      | ok a => simp [answer, scriptAnswer, hscript] at h
      | error refusal =>
          simp only [answer, scriptAnswer, hscript, Except.error.injEq] at h
          exact ⟨refusal, h.symm, rfl⟩

theorem Creates.later {object : SchemaObject} {a : Answer} (h : s.answer (.create object) = .ok a)
    {outcome : Except String Unit × Session} (hrest : Creates objects (s.creating [object]) outcome) :
    Creates (object :: objects) s outcome := by
  have haccepted {count : Nat} (hcount : (s.creating [object]).Accepts count) : s.Accepts (count + 1) :=
    accepts_succ.mpr ⟨by rw [h]; rfl, hcount⟩
  cases hrest with
  | done accepted =>
      rw [creating_creating]
      exact .done (haccepted accepted)
  | @refused before after stop refusal stopped accepted answered =>
      rw [creating_creating]
      have hstopped : object :: objects = (object :: before) ++ stop :: after := by rw [stopped, List.cons_append]
      have hanswered : s.script[(object :: before).length]? = some (.error refusal) := by
        simpa [creating, Nat.add_comm] using answered
      exact .refused hstopped (haccepted accepted) hanswered

theorem creates (objects : List SchemaObject) (s : Session) : Creates objects s (createAll objects s) := by
  induction objects generalizing s with
  | nil =>
      have hnone : s.creating [] = s := by simp [creating]
      have hdone : Creates [] s (.ok (), s.creating []) := .done (by simp [Accepts])
      rwa [hnone] at hdone
  | cons object rest ih =>
      have hsend : s.send (.create object) = (s.answer (.create object), s.creating [object]) := by
        rw [send, sending_create]
      rw [createAll, hsend]
      cases hanswer : s.answer (.create object) with
      | ok a => exact (ih (s.creating [object])).later hanswer
      | error f =>
          obtain ⟨refusal, rfl, hfirst⟩ := script_of_answer_error hanswer
          have hstopped : object :: rest = [] ++ object :: rest := rfl
          have hnone : s.Accepts ([] : List SchemaObject).length := by simp [Accepts]
          exact .refused hstopped hnone hfirst

/-- The schema is set up exactly if no answer refuses. What is sent is a first part of the schema, in which every
object stands behind those it refers to, and an error names the last object that was sent. -/
theorem initSchema_sends (s : Session) :
    (s.initSchema.result = .ok () ↔ s.Accepts SchemaObject.all.length) ∧
    (Event.schemaReady SchemaObject.all.length ∈ s.initSchema.events ↔ s.initSchema.result = .ok ()) ∧
    ∃ created later, SchemaObject.all = created ++ later ∧ s.initSchema.state = s.creating created ∧
      (∀ before object after, created = before ++ object :: after →
        ∀ table ∈ object.references, ∃ x ∈ before, x.name = table) ∧
      (s.initSchema.result = .ok () → later = []) ∧
      ∀ e, s.initSchema.result = .error e → ∃ before object refusal, created = before ++ [object] ∧
        s.Accepts before.length ∧ s.script[before.length]? = some (.error refusal) ∧
        e = notCreated object (.refused refusal) := by
  have hcreates := creates SchemaObject.all s
  rw [initSchema]
  generalize createAll SchemaObject.all s = outcome at hcreates ⊢
  cases hcreates with
  | done accepted =>
      exact ⟨iff_of_true rfl accepted, iff_of_true (by simp) rfl, SchemaObject.all, [], (List.append_nil _).symm, rfl,
        fun _ _ _ hsplit _ => SchemaObject.referred_before hsplit, fun _ => rfl, nofun⟩
  | @refused before after object refusal stopped accepted answered =>
      have hrefused : ¬ s.Accepts SchemaObject.all.length := not_accepts (by rw [stopped]; simp) answered
      have hall : SchemaObject.all = (before ++ [object]) ++ after := by
        rw [stopped, List.append_assoc, List.singleton_append]
      refine ⟨iff_of_false nofun hrefused, iff_of_false (by simp) nofun, before ++ [object], after, hall, rfl, ?_,
        nofun, ?_⟩
      · intro earlier x behind hsplit
        have hlater : SchemaObject.all = earlier ++ x :: (behind ++ after) := by
          rw [hall, hsplit, List.append_assoc, List.cons_append]
        exact fun _ => SchemaObject.referred_before hlater
      · rintro e he
        cases he
        exact ⟨before, object, refusal, rfl, accepted, answered, rfl⟩

/-- Asking whether the database answers sends one statement and uses up one answer, which alone decides. -/
theorem healthCheck_sends (s : Session) :
    s.healthCheck.2 = { s with script := s.script.drop 1, sent := s.sent ++ [.probe] } ∧
    (s.healthCheck.1 = .ok () ↔ s.Accepts 1) := by
  constructor
  · simp [healthCheck, send, sending, remaining, refusesEnd]
  · cases hscript : s.script with
    | nil => simp [healthCheck, send, answer, scriptAnswer, hscript, Accepts, Except.map]
    | cons first rest =>
        cases first <;>
          simp [healthCheck, send, answer, scriptAnswer, hscript, Accepts, Except.map, Except.isOk, Except.toBool]

end Session
end Clearing.Sql
