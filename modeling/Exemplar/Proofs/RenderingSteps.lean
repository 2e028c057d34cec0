import Exemplar.Rendering.Basic

/-
Steps of renderings. Renderings in sequence pass their memories on, a list of renderings imports
what each of them imports, and no step forgets the known models, not even one that fails.
-/

namespace Exemplar

def Memory.importing (memory : Memory) (names : List String) : Memory where
  knownModels := memory.knownModels
  imports := names.foldl (fun imports name => NameSet.insert name imports) memory.imports

@[simp] theorem Memory.knownModels_importing (memory : Memory) (names : List String) :
    (memory.importing names).knownModels = memory.knownModels := rfl

@[simp] theorem Memory.importing_nil (memory : Memory) : memory.importing [] = memory := rfl

@[simp] theorem Memory.importing_importing (memory : Memory) (first second : List String) :
    (memory.importing first).importing second = memory.importing (first ++ second) := by
  simp [importing]

namespace Rendering

variable {α β : Type} {memory : Memory}

@[simp] theorem perform_pure (value : α) : perform (pure value) memory = (.ok value, memory) := rfl

@[simp] theorem perform_attempt (result : Except Error α) :
    perform (attempt result) memory = (result, memory) := rfl

@[simp] theorem perform_knownModels :
    perform knownModels memory = (.ok memory.knownModels, memory) := rfl

@[simp] theorem perform_imports : perform imports memory = (.ok memory.imports, memory) := rfl

@[simp] theorem perform_reset (names : NameSet) :
    perform (reset names) memory = (.ok (), ⟨names, []⟩) := rfl

@[simp] theorem perform_addImport (name : String) :
    perform (addImport name) memory = (.ok (), memory.importing [name]) := rfl

/-- A rendering goes on from the memory that the one before it leaves, unless that one fails. -/
theorem perform_bind (first : Rendering α) (next : α → Rendering β) :
    perform (first >>= next) memory =
      match perform first memory with
      | (.ok value, after) => perform (next value) after
      | (.error error, after) => (.error error, after) := by
  have started : (StateT.run first.run memory).run = perform first memory := rfl
  rw [perform, ExceptT.run_bind, StateT.run_bind, Id.run_bind, started]
  obtain ⟨error | value, after⟩ := perform first memory
  · rfl
  · rfl

theorem perform_bind_ok {first : Rendering α} {next : α → Rendering β} {value : α} {after : Memory}
    (done : perform first memory = (.ok value, after)) :
    perform (first >>= next) memory = perform (next value) after := by
  rw [perform_bind, done]

/-- A list of renderings yields the list of their values and adds the imports of all of them. -/
theorem perform_mapM {action : α → Rendering β} {value : α → β} {added : α → List String}
    {known : NameSet} {items : List α}
    (each : ∀ item ∈ items, ∀ memory : Memory, memory.knownModels = known →
      perform (action item) memory = (.ok (value item), memory.importing (added item)))
    (knows : memory.knownModels = known) :
    perform (items.mapM action) memory =
      (.ok (items.map value), memory.importing (items.flatMap added)) := by
  induction items generalizing memory with
  | nil => rfl
  | cons first rest inductionHypothesis =>
      have done := each first List.mem_cons_self memory knows
      have later : perform (rest.mapM action) (memory.importing (added first)) = _ :=
        inductionHypothesis (fun item member => each item (List.mem_cons_of_mem _ member)) knows
      simp only [List.mapM_cons, perform_bind, done, later, perform_pure, List.map_cons,
        List.flatMap_cons, Memory.importing_importing]

/-- A rendering keeps the models when it leaves the known models as they are. -/
def KeepsModels (rendering : Rendering α) : Prop :=
  ∀ memory, (perform rendering memory).2.knownModels = memory.knownModels

theorem keepsModels_pure (value : α) : KeepsModels (pure value) := fun _ => rfl

theorem keepsModels_attempt (result : Except Error α) : KeepsModels (attempt result) := fun _ => rfl

theorem keepsModels_knownModels : KeepsModels knownModels := fun _ => rfl

theorem keepsModels_imports : KeepsModels imports := fun _ => rfl

theorem keepsModels_addImport (name : String) : KeepsModels (addImport name) := fun _ => rfl

theorem KeepsModels.bind {first : Rendering α} {next : α → Rendering β}
    (keeps : KeepsModels first) (later : ∀ value, KeepsModels (next value)) :
    KeepsModels (first >>= next) := by
  intro memory
  have kept := keeps memory
  rw [perform_bind]
  cases done : perform first memory with
  | mk result after =>
      rw [done] at kept
      cases result with
      | error error => exact kept
      | ok value => exact (later value after).trans kept

theorem KeepsModels.mapM {action : α → Rendering β} (keeps : ∀ item, KeepsModels (action item))
    (items : List α) : KeepsModels (items.mapM action) := by
  induction items with
  | nil => exact keepsModels_pure []
  | cons first rest inductionHypothesis =>
      rw [List.mapM_cons]
      exact (keeps first).bind fun _ => inductionHypothesis.bind fun _ => keepsModels_pure _

/-- A rendering fails on a memory when it ends in an error. -/
def Fails (rendering : Rendering α) (memory : Memory) : Prop :=
  ∃ error, (perform rendering memory).1 = .error error

theorem fails_attempt (error : Error) : Fails (attempt (.error error) : Rendering α) memory :=
  ⟨error, rfl⟩

/-- A rendering in sequence fails when the first one does. -/
theorem Fails.bind {first : Rendering α} (fails : Fails first memory) (next : α → Rendering β) :
    Fails (first >>= next) memory := by
  obtain ⟨error, failed⟩ := fails
  refine ⟨error, ?_⟩
  rw [perform_bind]
  cases done : perform first memory with
  | mk result after =>
      rw [done] at failed
      cases failed
      rfl

theorem fails_bind_ok {first : Rendering α} {next : α → Rendering β} {value : α} {after : Memory}
    (done : perform first memory = (.ok value, after)) (fails : Fails (next value) after) :
    Fails (first >>= next) memory := by
  obtain ⟨error, failed⟩ := fails
  refine ⟨error, ?_⟩
  rw [perform_bind_ok done, failed]

/-- A list of renderings fails when one of them does whatever has been imported. -/
theorem fails_mapM {action : α → Rendering β} {known : NameSet} {items : List α} {item : α}
    (keeps : ∀ item, KeepsModels (action item)) (listed : item ∈ items)
    (fails : ∀ memory : Memory, memory.knownModels = known → Fails (action item) memory)
    (knows : memory.knownModels = known) : Fails (items.mapM action) memory := by
  induction items generalizing memory with
  | nil => cases listed
  | cons first rest inductionHypothesis =>
      rw [List.mapM_cons]
      have kept := keeps first memory
      cases done : perform (action first) memory with
      | mk result after =>
          rw [done] at kept
          cases result with
          | error error => exact Fails.bind ⟨error, by rw [done]⟩ _
          | ok value =>
              apply fails_bind_ok done
              rcases List.mem_cons.mp listed with rfl | later
              · obtain ⟨error, failed⟩ := fails memory knows
                rw [done] at failed
                cases failed
              · exact (inductionHypothesis later (kept.trans knows)).bind _

end Rendering

end Exemplar
