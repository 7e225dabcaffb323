import TechniqueScan.Proofs.Binary.Procedures
import TechniqueScan.Proofs.Scan.Independence
import TechniqueScan.Provider.Disassembly

/-!
The scopes of disassembled code. Procedures are told apart by their addresses, but what their code
says is filed under their names. So facts of two procedures share a scope exactly if the procedures
share a name, and only then can a match stand on what two of them say.
-/

namespace TechniqueScan.Disassembly

open Binary Machine

namespace Context

variable (x : Context) (content : ByteArray)

/-! ## What a procedure says -/

/-- The facts of a procedure as a model keeps them. -/
def keptFacts (p : Procedure) : List Fact := (x.procedureFacts p content).map Fact.normal

theorem instructionFacts_scope (p : Procedure) (address : UInt64) (d : Decoded) :
    ∀ f ∈ x.instructionFacts p address d, f.scope = .procedure p.name := by
  intro f member
  rw [instructionFacts, List.mem_append, List.mem_cons, List.mem_filterMap] at member
  rcases member with (rfl | member) | ⟨a, _, text⟩
  · rfl
  · split at member
    · rw [List.mem_singleton.mp member]
      rfl
    · obtain ⟨_, _, rfl⟩ := List.mem_map.mp member
      rfl
  · obtain ⟨_, _, rfl⟩ := Option.map_eq_some_iff.mp text
    rfl

variable {x content} in
theorem keptFacts_scope {p : Procedure} {f : Fact} (member : f ∈ x.keptFacts content p) :
    f.scope = .procedure p.name := by
  obtain ⟨g, said, rfl⟩ := List.mem_map.mp member
  obtain ⟨⟨address, d⟩, _, said⟩ := List.mem_flatMap.mp said
  rw [Fact.normal_scope]
  exact x.instructionFacts_scope p address d g said

/-- A scope holds what the procedures of its name say, and nothing else. -/
theorem mem_scope_iff (binaryId name : String) (f : Fact) :
    f ∈ (FactModel.ofFacts binaryId (x.facts content)).facts ∧ f.scope = .procedure name ↔
      ∃ p ∈ x.image.procedures, p.name = name ∧ f ∈ x.keptFacts content p := by
  rw [FactModel.mem_ofFacts]
  constructor
  · rintro ⟨member, own⟩
    obtain ⟨g, said, rfl⟩ := List.mem_map.mp member
    rw [Fact.normal_scope] at own
    simp only [facts, List.mem_append, List.mem_map, List.mem_flatMap] at said
    -- Names and the texts that no procedure refers to belong to the binary as a whole.
    rcases said with ((⟨_, _, rfl⟩ | ⟨_, _, rfl⟩) | ⟨p, listed, said⟩) | ⟨_, _, rfl⟩
    · cases own
    · cases own
    · have kept : g.normal ∈ x.keptFacts content p := List.mem_map_of_mem said
      have scope := keptFacts_scope kept
      rw [Fact.normal_scope, own] at scope
      exact ⟨p, listed, (Scope.procedure.inj scope).symm, kept⟩
    · cases own
  · rintro ⟨p, listed, rfl, kept⟩
    refine ⟨?_, keptFacts_scope kept⟩
    obtain ⟨g, said, rfl⟩ := List.mem_map.mp kept
    refine List.mem_map_of_mem ?_
    simp only [facts, List.mem_append, List.mem_flatMap]
    exact .inl (.inr ⟨p, listed, said⟩)

/-! ## Procedures apart -/

/-- Whether facts of procedures at different addresses never share a scope. -/
def Separates : Prop :=
  ∀ p ∈ x.image.procedures, ∀ q ∈ x.image.procedures, p.address ≠ q.address →
    ∀ f ∈ x.keptFacts content p, ∀ g ∈ x.keptFacts content q, f.scope ≠ g.scope

/-- They never do exactly if at most one procedure of a name says anything. -/
theorem separates_iff : x.Separates content ↔
    ∀ p ∈ x.image.procedures, ∀ q ∈ x.image.procedures, p.address ≠ q.address → p.name = q.name →
      x.procedureFacts p content = [] ∨ x.procedureFacts q content = [] := by
  constructor
  · intro apart p listed q listed' different same
    by_contra bothSay
    rw [not_or] at bothSay
    obtain ⟨f, said⟩ := List.exists_mem_of_ne_nil _ bothSay.1
    obtain ⟨g, said'⟩ := List.exists_mem_of_ne_nil _ bothSay.2
    have kept : f.normal ∈ x.keptFacts content p := List.mem_map_of_mem said
    have kept' : g.normal ∈ x.keptFacts content q := List.mem_map_of_mem said'
    refine apart p listed q listed' different _ kept _ kept' ?_
    rw [keptFacts_scope kept, keptFacts_scope kept', same]
  · intro silent p listed q listed' different f kept g kept' same
    rw [keptFacts_scope kept, keptFacts_scope kept'] at same
    rcases silent p listed q listed' different (Scope.procedure.inj same) with nothing | nothing
    · simp [keptFacts, nothing] at kept
    · simp [keptFacts, nothing] at kept'

/-! ## Matches -/

/-- Whether the facts with some indices are all facts of a procedure. -/
def AllFrom (m : FactModel) (p : Procedure) (is : List Nat) : Prop :=
  ∀ i ∈ is, ∃ f ∈ x.keptFacts content p, m.fact? i = some f

variable {x content} {binaryId name : String} {l : Location} {is : List Nat}

/-- What is found in a procedure stands on what the procedures of that name say. -/
theorem exists_named_of_grounded
    (grounded : GroundedAt (.ofFacts binaryId (x.facts content)) l is)
    (inside : l.scope = .procedure name) :
    ∀ i ∈ is, ∃ p ∈ x.image.procedures, p.name = name ∧
      x.AllFrom content (.ofFacts binaryId (x.facts content)) p [i] := by
  intro i member
  obtain ⟨f, found, own⟩ := grounded.present i member
  have listed : f ∈ (FactModel.ofFacts binaryId (x.facts content)).facts :=
    Array.mem_iff_getElem?.mpr ⟨i, found⟩
  obtain ⟨p, declared, named, kept⟩ :=
    (x.mem_scope_iff content binaryId name f).mp ⟨listed, own.trans inside⟩
  exact ⟨p, declared, named, List.forall_mem_singleton.mpr ⟨f, kept, found⟩⟩

/-- Where scopes keep procedures apart, it stands on what one procedure says. -/
theorem Separates.allFrom_of_grounded (apart : x.Separates content)
    (addresses : (x.image.procedures.map (·.address)).Nodup)
    (grounded : GroundedAt (.ofFacts binaryId (x.facts content)) l is)
    (inside : l.scope = .procedure name) :
    ∃ p ∈ x.image.procedures, p.name = name ∧
      x.AllFrom content (.ofFacts binaryId (x.facts content)) p is := by
  have named := exists_named_of_grounded grounded inside
  obtain ⟨⟨first, member, _⟩, _⟩ := grounded.lowest
  obtain ⟨p, declared, own, said⟩ := named first member
  obtain ⟨f, kept, _⟩ := said first (List.mem_singleton_self first)
  refine ⟨p, declared, own, ?_⟩
  intro i member
  obtain ⟨q, declared', own', said⟩ := named i member
  obtain ⟨g, kept', found⟩ := said i (List.mem_singleton_self i)
  have sameAddress : p.address = q.address := by
    by_contra different
    refine apart p declared q declared' different f kept g kept' ?_
    rw [keptFacts_scope kept, keptFacts_scope kept', own, own']
  obtain rfl : p = q := List.inj_on_of_nodup_map addresses declared declared' sameAddress
  exact ⟨g, kept', found⟩

/-- How what procedures say is filed, and what follows for matches. -/
structure FiledByName (x : Context) (content : ByteArray) (binaryId : String) : Prop where
  /-- Procedures are told apart by their addresses. -/
  addresses : (x.image.procedures.map (·.address)).Nodup
  /-- A scope holds what the procedures of its name say, and nothing else. -/
  scope : ∀ name f,
    f ∈ (FactModel.ofFacts binaryId (x.facts content)).facts ∧ f.scope = .procedure name ↔
      ∃ p ∈ x.image.procedures, p.name = name ∧ f ∈ x.keptFacts content p
  /-- Facts of two procedures share a scope exactly if the procedures share a name. -/
  shared : ∀ p q, ∀ f ∈ x.keptFacts content p, ∀ g ∈ x.keptFacts content q,
    f.scope = g.scope ↔ p.name = q.name
  /-- Procedures are kept apart exactly if at most one of a name says anything. -/
  separates_iff : x.Separates content ↔
    ∀ p ∈ x.image.procedures, ∀ q ∈ x.image.procedures, p.address ≠ q.address → p.name = q.name →
      x.procedureFacts p content = [] ∨ x.procedureFacts q content = []
  /-- A match in a procedure stands on what the procedures of that name say. -/
  named : ∀ {α : Type} [Arithmetic α] (signatures : List (Signature α)),
    (∀ s ∈ signatures, s.Validated) →
      ∀ r ∈ matchSignatures (.ofFacts binaryId (x.facts content)) signatures, ∀ name,
        r.location.scope = .procedure name → ∀ i ∈ r.facts, ∃ p ∈ x.image.procedures, p.name = name ∧
          x.AllFrom content (.ofFacts binaryId (x.facts content)) p [i]
  /-- It stands on what one procedure says if procedures are kept apart. -/
  single : x.Separates content → ∀ {α : Type} [Arithmetic α] (signatures : List (Signature α)),
    (∀ s ∈ signatures, s.Validated) →
      ∀ r ∈ matchSignatures (.ofFacts binaryId (x.facts content)) signatures, ∀ name,
        r.location.scope = .procedure name → ∃ p ∈ x.image.procedures, p.name = name ∧
          x.AllFrom content (.ofFacts binaryId (x.facts content)) p r.facts

end Context

open Context

/-- What the procedures of a settled image say is filed under their names, whatever is decoded. -/
theorem settled_filedByName (i : Image) (strings : List (UInt64 × String)) (decode : Decoder)
    (budget : Nat) (content : ByteArray) (binaryId : String) :
    FiledByName ⟨i.settle, strings, decode, budget⟩ content binaryId := by
  have addresses : (i.settle.procedures.map (·.address)).Nodup :=
    i.settle_ascends.imp UInt64.ne_of_lt
  refine ⟨addresses, mem_scope_iff _ content binaryId, ?_, separates_iff _ content, ?_, ?_⟩
  · intro p q f kept g kept'
    rw [keptFacts_scope kept, keptFacts_scope kept', Scope.procedure.injEq]
  · intro α _ signatures validated r member name inside i listed
    exact exists_named_of_grounded (matchSignatures_grounded validated member) inside i listed
  · intro apart α _ signatures validated r member name inside
    exact apart.allFrom_of_grounded addresses (matchSignatures_grounded validated member) inside

/-- Every model that is read from a file is one of a settled image with the texts that are kept of it. -/
theorem factsOfFile_settled {q : FactRequest} {content : ByteArray} {m : FactModel}
    (read : factsOfFile q content = .ok m) :
    ∃ (i : Image) (decode : Decoder) (budget : Nat), m = .ofFacts (identifier q.path content)
      (Context.facts ⟨i.settle, i.settle.strings content, decode, budget⟩ content) := by
  rw [factsOfFile] at read
  by_cases empty : content.isEmpty
  · rw [if_pos empty] at read
    cases read
  · by_cases noBudget : q.maxInstructions.getD defaultBudget = 0
    · simp only [empty, noBudget] at read
      cases read
    · simp only [empty, noBudget, if_false, Bool.false_eq_true] at read
      obtain ⟨i, _, read⟩ := bind_ok_iff.mp read
      obtain ⟨architecture, _, read⟩ := bind_ok_iff.mp read
      cases read
      exact ⟨_, _, _, rfl⟩

/-! ## Namesakes -/

/-- A file with two local procedures of one name, one behind the other. -/
def namesakes : Elf.File where
  header := ⟨62, 0, 0, 64, 0, 2, 0⟩
  sections := [⟨0, 0, 0, 0, 0, 0, 0, 0⟩, ⟨0, 1, 0, 0, 3, 0, 0, 0⟩]
  sectionNames := {}
  symbols := [⟨1, 2, 1, 0, 2⟩, ⟨1, 2, 1, 2, 1⟩]
  names := ⟨⟨#[0, 104, 101, 108, 112, 101, 114, 0]⟩⟩
  dynamicSymbols := []
  dynamicNames := {}
  entries := []

/-- The first of them reads a clock and the second one returns. -/
def namesakesCode : ByteArray := ⟨#[0x0f, 0x31, 0xc3]⟩

def namesakesContext : Context :=
  ⟨(Elf.image namesakes).settle, [], decoderOf .x86_64, defaultBudget⟩

def firstHelper : Procedure := ⟨"helper", 0, some 2, some 1⟩

def secondHelper : Procedure := ⟨"helper", 2, some 1, some 1⟩

theorem namesakes_procedures : (Elf.image namesakes).settle.procedures = [firstHelper, secondHelper] := by
  have listed : (Elf.image namesakes).procedures = [firstHelper, secondHelper] := by decide +kernel
  have sorted : (Elf.image namesakes).sorted = [firstHelper, secondHelper] := by
    rw [Image.sorted, listed]
    exact List.mergeSort_of_pairwise (by decide)
  rw [Image.settle_procedures, sorted]
  decide

def clockFact : Fact := ⟨⟨.procedure "helper", 0⟩, .instruction ⟨"rdtsc", ""⟩, none⟩

def returnFact : Fact := ⟨⟨.procedure "helper", 2⟩, .instruction ⟨"ret", ""⟩, none⟩

theorem namesakes_say :
    namesakesContext.procedureFacts firstHelper namesakesCode = [clockFact] ∧
      namesakesContext.procedureFacts secondHelper namesakesCode = [returnFact] := by
  decide +kernel

theorem namesakes_keep :
    namesakesContext.keptFacts namesakesCode firstHelper = [clockFact] ∧
      namesakesContext.keptFacts namesakesCode secondHelper = [returnFact] := by
  rw [keptFacts, keptFacts, namesakes_say.1, namesakes_say.2]
  decide

/-- The model of that file. -/
def namesakesModel : FactModel := .ofFacts "namesakes" (namesakesContext.facts namesakesCode)

theorem namesakesModel_facts :
    ascending ((namesakesContext.facts namesakesCode).map Fact.normal) = [clockFact, returnFact] := by
  have nothingElse : (Elf.image namesakes).settle.imports = [] ∧
      (Elf.image namesakes).settle.exports = [] := by decide +kernel
  have said : namesakesContext.facts namesakesCode = [clockFact, returnFact] := by
    have procedures : namesakesContext.image.procedures = [firstHelper, secondHelper] :=
      namesakes_procedures
    rw [Context.facts, procedures, List.flatMap_cons, List.flatMap_cons, namesakes_say.1, namesakes_say.2]
    simp [namesakesContext, nothingElse]
  rw [said]
  refine ascending_of_strictlyAscending ?_
  rw [StrictlyAscending]
  decide

theorem namesakesModel_fact? (i : Nat) :
    namesakesModel.fact? i = [clockFact, returnFact][i]? := by
  rw [namesakesModel, FactModel.ofFacts_fact?, namesakesModel_facts]

/-- An entry that asks for a clock that is read right before the return. -/
def timedReturn : SignatureEntry Rat :=
  ⟨"timed-return", "", 4 / 5, [{ opcodes := some [.mnemonic "rdtsc", .mnemonic "ret"] }]⟩

def timedReturnSignature : Signature Rat :=
  timedReturn.toSignature .antiDebug 0 [.window [⟨"rdtsc", none⟩, ⟨"ret", none⟩]]

theorem timedReturn_accepted : timedReturn.validate .antiDebug 0 = .ok timedReturnSignature := by
  refine SignatureEntry.validate_ok_iff.mpr
    ⟨by decide, by decide +kernel, by simp [timedReturn], _, .cons ?_ .nil, rfl⟩
  rfl

/-- The window that the entry asks for begins in one procedure and ends in the other. -/
theorem timedReturn_found :
    ⟨"timed-return", .antiDebug, ⟨.procedure "helper", 0⟩, [0, 1]⟩ ∈
      matchSignatures namesakesModel [timedReturnSignature] := by
  have validated : ∀ s ∈ [timedReturnSignature], s.Validated :=
    List.forall_mem_singleton.mpr ⟨timedReturn, .antiDebug, 0, timedReturn_accepted⟩
  have clock : namesakesModel.fact? 0 = some clockFact := namesakesModel_fact? 0
  have returns : namesakesModel.fact? 1 = some returnFact := namesakesModel_fact? 1
  have sequence : namesakesModel.instructionsOf "helper" = [0, 1] := by
    rw [namesakesModel, FactModel.instructionsOf_ofFacts, namesakesModel_facts]
    decide
  refine (mem_matchSignatures validated _).mpr ⟨_, List.mem_singleton_self _, ?_, rfl, rfl⟩
  have consecutive : [0, 1] <:+: namesakesModel.instructionsOf "helper" := ⟨[], [], by simp [sequence]⟩
  refine .single rfl rfl (.run (f := clockFact) consecutive ?_ clock)
  refine .cons ⟨clockFact, _, clock, rfl, by decide⟩ (.cons ?_ .nil)
  exact ⟨returnFact, _, returns, rfl, by decide⟩

/-- Procedures at different addresses share a scope, and a match stands on what both of them say. -/
theorem namesakes_not_separated : ¬ namesakesContext.Separates namesakesCode ∧
    ∃ r ∈ matchSignatures namesakesModel [timedReturnSignature],
      ∀ p ∈ namesakesContext.image.procedures,
        ¬ namesakesContext.AllFrom namesakesCode namesakesModel p r.facts := by
  have procedures : namesakesContext.image.procedures = [firstHelper, secondHelper] :=
    namesakes_procedures
  constructor
  · rw [separates_iff, procedures]
    intro apart
    have silent := apart firstHelper (by simp) secondHelper (by simp) (by decide) rfl
    simp [namesakes_say] at silent
  · refine ⟨_, timedReturn_found, ?_⟩
    rw [procedures]
    simp [AllFrom, namesakesModel_fact?, namesakes_keep, clockFact, returnFact]

end TechniqueScan.Disassembly
