import BatchedLog.Sink.Error
import BatchedLog.Text.Quoted

/-!
# Sink types

A registry knows sink types by name, each with a factory `φ`. Registering a name again replaces its
factory.
-/

namespace BatchedLog

abbrev Registry (φ : Type) := List (String × φ)

namespace Registry

variable {φ : Type}

def find? (r : Registry φ) (type : String) : Option φ :=
  (List.find? (fun (t, _) => t = type) r).map (·.2)

def contains (r : Registry φ) (type : String) : Bool := (r.find? type).isSome

def register (r : Registry φ) (type : String) (factory : φ) : Registry φ :=
  match r with
  | [] => [(type, factory)]
  | (t, f) :: rest =>
    if t = type then (type, factory) :: rest else (t, f) :: register rest type factory

/-- The registered names, sorted. -/
def types (r : Registry φ) : List String :=
  (r.map (·.1)).mergeSort fun a b => decide (a ≤ b)

def describe (r : Registry φ) : String :=
  "SinkRegistry \x7b kinds: " ++ Text.quoteList r.types ++ " \x7d"

theorem find?_register (r : Registry φ) (type : String) (factory : φ) (t : String) :
    (r.register type factory).find? t = if t = type then some factory else r.find? t := by
  induction r with
  | nil =>
    by_cases h : t = type
    · simp [register, find?, h]
    · simp [register, find?, h, Ne.symm h]
  | cons head rest ih =>
    obtain ⟨s, f⟩ := head
    unfold register
    split
    · rename_i hs
      subst hs
      by_cases h : t = s
      · simp [find?, h]
      · simp [find?, h, Ne.symm h]
    · rename_i hs
      by_cases h : s = t
      · subst h
        simp [find?, hs]
      · have : find? ((s, f) :: rest) t = find? rest t := by simp [find?, h]
        have h' : find? ((s, f) :: register rest type factory) t =
            find? (register rest type factory) t := by simp [find?, h]
        rw [h', this]
        exact ih

end Registry

/-- Why no sink came of a type and its parameters. -/
inductive RegistryError
  | unknownType (type : String)
  | construction (type : String) (source : SinkError)
  deriving DecidableEq, Repr

def RegistryError.message : RegistryError → String
  | .unknownType type => "no sink type registered under " ++ tick type
  | .construction type source =>
    "failed to construct " ++ tick type ++ " sink: " ++ source.message

end BatchedLog
