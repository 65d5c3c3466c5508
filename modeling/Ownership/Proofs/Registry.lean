import Mathlib.Data.List.Induction
import Ownership.Format.Registry
import Ownership.Proofs.Tables
import Ownership.Proofs.Text.LowerCase

/-!
# Who answers to an identifier

Formats can be registered at any time and in any order, on top of those that are always there.  A
call may register a known identifier again, and it may make a name an alias that is an identifier
itself.  Aliases are looked up first, so a registered identifier answers for itself only as long as
no call has made it an alias of another one, and registering it again does not win it back.
-/

namespace Ownership
namespace Registry

/-!
# Calls
-/

structure Call where
  id : String
  registration : Registration
  aliases : List String := []
deriving DecidableEq, Repr

namespace Call

def name (call : Call) : String := fold call.id

def succeeds (call : Call) : Bool := !call.name.isEmpty

def renamed (call : Call) : List String := (call.aliases.map fold).filter fun name => !name.isEmpty

def registers (call : Call) (name : String) : Bool :=
  call.succeeds && decide (call.name = name)

def renames (call : Call) (name : String) : Bool :=
  call.succeeds && decide (name ∈ call.renamed)

variable {call : Call} {name : String}

theorem registers_eq_true :
    call.registers name = true ↔ call.succeeds = true ∧ call.name = name := by
  unfold registers
  rw [Bool.and_eq_true, decide_eq_true_eq]

theorem renames_eq_true :
    call.renames name = true ↔ call.succeeds = true ∧ name ∈ call.renamed := by
  unfold renames
  rw [Bool.and_eq_true, decide_eq_true_eq]

end Call

/-- The registry after a call, which stays as it was if the call fails. -/
def attempt (registry : Registry) (call : Call) : Registry :=
  (registry.register call.id call.registration call.aliases).toOption.getD registry

def after (calls : List Call) : Registry := calls.foldl attempt builtIn

def builtInCalls : List Call := [
  { id := "find-owners", registration := { format := .lines, fileName := "OWNERS" },
    aliases := ["find_owners", "owners", "line"] },
  { id := "proto", registration := { format := .blocks, fileName := "OWNERS_METADATA" },
    aliases := ["textproto", "structured"] }]

theorem builtIn_eq : builtIn = builtInCalls.foldl attempt {} := by
  decide +kernel

/-- What was registered last under an identifier. -/
def lastRegistration? (calls : List Call) (name : String) : Option Registration :=
  (calls.reverse.find? fun call => call.registers name).map Call.registration

/-- The identifier of which a name was made an alias last. -/
def lastTarget? (calls : List Call) (name : String) : Option String :=
  (calls.reverse.find? fun call => call.renames name).map Call.name

variable {registry : Registry} {calls : List Call} {call : Call} {id name target : String}

theorem lastRegistration?_append_singleton (calls : List Call) (call : Call) (name : String) :
    lastRegistration? (calls ++ [call]) name =
      if call.registers name = true then some call.registration
      else lastRegistration? calls name := by
  unfold lastRegistration?
  rw [find?_reverse_append_singleton]
  split <;> rfl

theorem lastTarget?_append_singleton (calls : List Call) (call : Call) (name : String) :
    lastTarget? (calls ++ [call]) name =
      if call.renames name = true then some call.name else lastTarget? calls name := by
  unfold lastTarget?
  rw [find?_reverse_append_singleton]
  split <;> rfl

theorem isSome_lastRegistration?_iff :
    (lastRegistration? calls name).isSome = true ↔ ∃ call ∈ calls, call.registers name = true := by
  unfold lastRegistration?
  rw [Option.isSome_map, List.find?_isSome]
  simp only [List.mem_reverse]

theorem isSome_lastRegistration?_of_lastTarget? (h : lastTarget? calls name = some target) :
    (lastRegistration? calls target).isSome = true := by
  rcases Option.map_eq_some_iff.mp h with ⟨call, hfound, htarget⟩
  have hmem : call ∈ calls := List.mem_reverse.mp (List.mem_of_find?_eq_some hfound)
  have hrenames : call.renames name = true := by
    simpa using List.find?_some hfound
  have hsucceeds := (Call.renames_eq_true.mp hrenames).1
  exact isSome_lastRegistration?_iff.mpr
    ⟨call, hmem, Call.registers_eq_true.mpr ⟨hsucceeds, htarget⟩⟩

/-!
# Folded identifiers
-/

theorem fold_fold (id : String) : fold (fold id) = fold id := by
  unfold fold
  rw [String.toList_ofList, Text.trim_of_trimmed (Text.trimmed_lower (Text.trimmed_trim _)),
    Text.lower_lower]

theorem fold_of_registered (h : (lastRegistration? calls id).isSome = true) : fold id = id := by
  rcases isSome_lastRegistration?_iff.mp h with ⟨call, _, hregisters⟩
  rw [← (Call.registers_eq_true.mp hregisters).2]
  exact fold_fold call.id

/-!
# What a registry holds
-/

theorem attempt_eq (registry : Registry) (call : Call) :
    registry.attempt call =
      if call.succeeds = true then
        { backends := registry.backends.insert call.name call.registration
          aliases := call.renamed.foldl (fun table name => table.insert name call.name)
            registry.aliases }
      else registry := by
  unfold attempt register Call.succeeds
  dsimp only
  rw [show fold call.id = call.name from rfl]
  cases call.name.isEmpty with
  | false => rfl
  | true => rfl

theorem get?_backends_attempt (registry : Registry) (call : Call) (name : String) :
    (registry.attempt call).backends.get? name =
      if call.registers name = true then some call.registration
      else registry.backends.get? name := by
  rw [attempt_eq]
  unfold Call.registers
  cases call.succeeds with
  | false => rfl
  | true => simpa using Table.get?_insert registry.backends call.name call.registration name

theorem get?_aliases_attempt (registry : Registry) (call : Call) (name : String) :
    (registry.attempt call).aliases.get? name =
      if call.renames name = true then some call.name else registry.aliases.get? name := by
  rw [attempt_eq]
  unfold Call.renames
  cases call.succeeds with
  | false => rfl
  | true => simpa using Table.get?_insert_all registry.aliases call.renamed call.name name

/-- The two tables of a registry remember the last call for each name. -/
theorem get?_foldl_attempt (calls : List Call) (name : String) :
    (calls.foldl attempt {}).backends.get? name = lastRegistration? calls name ∧
      (calls.foldl attempt {}).aliases.get? name = lastTarget? calls name := by
  induction calls using List.reverseRecOn with
  | nil => exact ⟨rfl, rfl⟩
  | append_singleton earlier call ih =>
      rw [List.foldl_append, List.foldl_cons, List.foldl_nil]
      constructor
      · rw [get?_backends_attempt, ih.1, lastRegistration?_append_singleton]
      · rw [get?_aliases_attempt, ih.2, lastTarget?_append_singleton]

theorem after_eq (calls : List Call) : after calls = (builtInCalls ++ calls).foldl attempt {} := by
  unfold after
  rw [List.foldl_append, ← builtIn_eq]

theorem get?_backends_after (calls : List Call) (name : String) :
    (after calls).backends.get? name = lastRegistration? (builtInCalls ++ calls) name := by
  rw [after_eq]
  exact (get?_foldl_attempt _ name).1

theorem get?_aliases_after (calls : List Call) (name : String) :
    (after calls).aliases.get? name = lastTarget? (builtInCalls ++ calls) name := by
  rw [after_eq]
  exact (get?_foldl_attempt _ name).2

theorem mem_available : id ∈ registry.available ↔ id ∈ registry.backends.keys := Text.mem_sorted

theorem mem_available_after :
    id ∈ (after calls).available ↔
      (lastRegistration? (builtInCalls ++ calls) id).isSome = true := by
  rw [mem_available, ← get?_backends_after, Option.isSome_iff_ne_none, ne_eq,
    Table.get?_eq_none_iff, not_not]

/-!
# Answering
-/

/-- An identifier leads to what is registered under another one, or under itself. -/
structure Leads (registry : Registry) (id target : String) (registration : Registration) :
    Prop where
  canonical : registry.canonicalId id = .ok target
  found : registry.get id =
    .ok { id := target, format := registration.format, fileName := registration.fileName }

def answering (calls : List Call) (id : String) : String :=
  (lastTarget? (builtInCalls ++ calls) id).getD id

theorem answering_mem_available (h : id ∈ (after calls).available) :
    answering calls id ∈ (after calls).available := by
  unfold answering
  cases htarget : lastTarget? (builtInCalls ++ calls) id with
  | none => exact h
  | some target => exact mem_available_after.mpr (isSome_lastRegistration?_of_lastTarget? htarget)

theorem leads_of_registered {registration : Registration} (hfold : fold id = id)
    (htarget : answering calls id = target)
    (h : lastRegistration? (builtInCalls ++ calls) target = some registration) :
    (after calls).Leads id target registration := by
  have halias : (after calls).aliases.getD (fold id) (fold id) = target := by
    unfold Table.getD
    rw [hfold, get?_aliases_after]
    exact htarget
  have hbackend : (after calls).backends.get? target = some registration := by
    rw [get?_backends_after, h]
  have hcanonical : (after calls).canonicalId id = .ok target := by
    unfold canonicalId Table.contains
    dsimp only
    rw [halias, hbackend]
    rfl
  constructor
  · exact hcanonical
  · unfold get
    rw [hcanonical]
    dsimp only [bind, Except.bind]
    rw [hbackend]
    rfl

/-- A registered identifier leads to what was registered last under the identifier that answers to
it.  That is itself, and its own last registration is found, just if no call has made it an alias of
another identifier after it was last an alias of itself. -/
theorem leads_of_available (calls : List Call) (id : String) (h : id ∈ (after calls).available) :
    answering calls id ∈ (after calls).available ∧
      (∃ registration,
        lastRegistration? (builtInCalls ++ calls) (answering calls id) = some registration ∧
        (after calls).Leads id (answering calls id) registration) ∧
      ((∃ registration, lastRegistration? (builtInCalls ++ calls) id = some registration ∧
          (after calls).Leads id id registration) ↔
        ∀ target ∈ lastTarget? (builtInCalls ++ calls) id, target = id) := by
  have hfold : fold id = id := fold_of_registered (mem_available_after.mp h)
  have hanswering := answering_mem_available h
  rcases Option.isSome_iff_exists.mp (mem_available_after.mp hanswering) with
    ⟨registration, hregistration⟩
  have hleads := leads_of_registered hfold rfl hregistration
  refine ⟨hanswering, ⟨registration, hregistration, hleads⟩, ?_⟩
  constructor
  · intro hown target htarget
    rcases hown with ⟨own, _, hself⟩
    have hsame : answering calls id = id := by
      injection hleads.canonical.symm.trans hself.canonical
    unfold answering at hsame
    rw [Option.mem_def.mp htarget] at hsame
    exact hsame
  · intro hkept
    have hsame : answering calls id = id := by
      unfold answering
      cases htarget : lastTarget? (builtInCalls ++ calls) id with
      | none => rfl
      | some target => exact hkept target htarget
    rw [hsame] at hregistration hleads
    exact ⟨registration, hregistration, hleads⟩

/-!
# A format called line

The name of the new format has been an alias since the beginning.
-/

def lineCalls : List Call :=
  [{ id := "line", registration := { format := .blocks, fileName := "LINES" } }]

theorem line_leads_to_owners :
    "line" ∈ (after lineCalls).available ∧
      lastRegistration? (builtInCalls ++ lineCalls) "line" =
        some { format := .blocks, fileName := "LINES" } ∧
      (after lineCalls).canonicalId "line" = .ok "find-owners" ∧
      (after lineCalls).get "line" =
        .ok { id := "find-owners", format := .lines, fileName := "OWNERS" } := by
  rw [mem_available]
  decide +kernel

theorem leads_of_available_line :
    "line" ∈ (after lineCalls).available ∧
      (∃ registration, (after lineCalls).Leads "line" (answering lineCalls "line") registration) ∧
      ¬∃ registration, lastRegistration? (builtInCalls ++ lineCalls) "line" = some registration ∧
        (after lineCalls).Leads "line" "line" registration := by
  have havailable : "line" ∈ (after lineCalls).available := by
    rw [mem_available]
    decide +kernel
  have htarget : lastTarget? (builtInCalls ++ lineCalls) "line" = some "find-owners" := by
    decide +kernel
  rcases leads_of_available lineCalls "line" havailable with ⟨_, ⟨registration, _, hleads⟩, hown⟩
  refine ⟨havailable, ⟨registration, hleads⟩, fun hself => ?_⟩
  exact absurd (hown.mp hself "find-owners" htarget) (by decide)

end Registry
end Ownership
