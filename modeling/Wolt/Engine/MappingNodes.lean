/-
# The nodes of the mapping file

`_UniqueKeyLoader` of `app/config.py`. A mapping is built at once, key after key, and a repeated key
is a `ConfigError`. The generator of a sequence runs after the document is built, and the generators
that it leads to after all that wait already.

What can go wrong is the list of the steps that building takes, in the order in which they are
taken. The list is read off the nodes alone, and building ends with the first step that goes wrong.
-/

import Wolt.Engine.HeadlessListener
import Wolt.Python.Base64

namespace Wolt.Engine

open Wolt.Python Wolt.Wake

/-! ## Nodes and what is built of them -/

/-- `ConfigError` of `load_mappings`, from the file to the listeners. -/
inductive FileError
  | cannotLoad (reason : Text)
  | duplicateKey (key : Text)
  | invalid (error : ConfigError)
  deriving DecidableEq

/-- The text of the error. -/
def FileError.message : FileError → Text
  | cannotLoad reason => "cannot load mapping file: ".toList ++ reason
  | duplicateKey key => "duplicate YAML key: ".toList ++ key
  | invalid error => error.message

/-- What is raised while the file is loaded. -/
inductive Raised
  | configError (error : FileError)
  | osError (reason : Text)
  | yamlError (reason : Text)
  | unicodeDecodeError
  | typeError
  | valueError
  /-- Any other exception of a constructor of PyYAML. -/
  | other (name : Text)
  deriving DecidableEq

/-- A key of a dictionary: a text, or another object that can be hashed. -/
inductive Atom (O : Type)
  | text (text : Text)
  | other (value : O)

/-- What is built of a node. Nothing reads what is in a collection. -/
inductive Loaded (O : Type)
  | atom (atom : Atom O)
  | collection
  | dict (items : List (Atom O × Loaded O))

/-- A node, by the constructor that its tag selects. -/
inductive Node (L : Type)
  /-- A scalar. PyYAML builds it, or refuses it. -/
  | leaf (node : L)
  /-- A sequence, a set or pairs: the generator of PyYAML constructs these nodes one after the
  other. Where it refuses what it finds stands a leaf that is refused. -/
  | collection (items : List (Node L))
  | mapping (pairs : List (Node L × Node L))
  /-- A scalar that has the tag of a mapping. -/
  | scalarMapping (value : Text)
  /-- A sequence that has the tag of a mapping. -/
  | sequenceMapping (items : List (Node L))

/-- What is used of PyYAML and of the objects that it builds. -/
structure YamlLibrary (L O : Type) where
  /-- The reader, the parser and the composer, of a text; a file without a document has no node. -/
  compose : Text → Except Text (Option (Node L))
  /-- The same of bytes whose end is not a text, if it refuses them before it reads that far. -/
  refusesEarly : Bytes → Option Text
  /-- The constructor of a scalar. -/
  build : L → Except Raised (Atom O)
  /-- Two keys that are one key of a dictionary. -/
  same : O → O → Bool
  /-- `str(value)`. There is none of an integer with too many digits. -/
  print : O → Option Text
  /-- `int(text)`, if it is accepted. -/
  readInt : Text → Option ℤ

namespace YamlLibrary

variable {L O : Type} (library : YamlLibrary L O)

/-- `str(atom)`. -/
def str : Atom O → Option Text
  | .text text => some text
  | .other value => library.print value

/-- Two keys that are one key of a dictionary. -/
def sameKey : Atom O → Atom O → Bool
  | .text key, .text found => key = found
  | .other key, .other found => library.same key found
  | _, _ => false

/-- `f"duplicate YAML key: {key}"` is built before it is raised. -/
def repeatedKey (key : Atom O) : Raised :=
  match library.str key with
  | some text => .configError (.duplicateKey text)
  | none => .valueError

/-! ## Building -/

mutual

/-- `construct_object(node)`, without the generators. -/
def constructObject : Node L → Except Raised (Loaded O)
  | .leaf node => (library.build node).map .atom
  | .collection _ => .ok .collection
  | .mapping pairs => (constructUniqueMapping [] pairs).map .dict
  -- `node.value` is a text, and a character is not a pair.
  | .scalarMapping value => if value = [] then .ok (.dict []) else .error .valueError
  -- `node.value` is a list, and a node is not a pair.
  | .sequenceMapping items => if items.isEmpty then .ok (.dict []) else .error .typeError

/-- The loop of `_construct_unique_mapping`. -/
def constructUniqueMapping (mapping : List (Atom O × Loaded O)) :
    List (Node L × Node L) → Except Raised (List (Atom O × Loaded O))
  | [] => .ok mapping
  | (keyNode, valueNode) :: rest => do
      match ← constructObject keyNode with
      | .atom key =>
          if mapping.any fun item => library.sameKey key item.1 then
            .error (library.repeatedKey key)
          else
            let value ← constructObject valueNode
            constructUniqueMapping (mapping ++ [(key, value)]) rest
      | _ => .error .typeError

end

/-- `construct_sequence(node)`. -/
def constructSequence : List (Node L) → Except Raised Unit
  | [] => .ok ()
  | node :: rest => do
      let _ ← library.constructObject node
      constructSequence rest

end YamlLibrary

variable {L O : Type}

mutual

/-- The generators that wait once a node is built. -/
def Node.deferred : Node L → List (List (Node L))
  | .leaf _ | .scalarMapping _ | .sequenceMapping _ => []
  | .collection items => [items]
  | .mapping pairs => deferredOfPairs pairs

def deferredOfPairs : List (Node L × Node L) → List (List (Node L))
  | [] => []
  | (key, value) :: rest => key.deferred ++ value.deferred ++ deferredOfPairs rest

end

/-- The same of several nodes. -/
def deferredOfNodes (items : List (Node L)) : List (List (Node L)) :=
  items.flatMap Node.deferred

mutual

/-- The generators that a node leads to in the end. -/
def Node.collections : Node L → ℕ
  | .leaf _ | .scalarMapping _ | .sequenceMapping _ => 0
  | .collection items => collectionsOfNodes items + 1
  | .mapping pairs => collectionsOfPairs pairs

def collectionsOfNodes : List (Node L) → ℕ
  | [] => 0
  | node :: rest => node.collections + collectionsOfNodes rest

def collectionsOfPairs : List (Node L × Node L) → ℕ
  | [] => 0
  | (key, value) :: rest => key.collections + value.collections + collectionsOfPairs rest

end

/-- The generators that a queue leads to in the end, with those in it. -/
def waiting (queue : List (List (Node L))) : ℕ :=
  (queue.map fun items => collectionsOfNodes items + 1).sum

@[simp] theorem waiting_cons (items : List (Node L)) (queue : List (List (Node L))) :
    waiting (items :: queue) = collectionsOfNodes items + 1 + waiting queue := by
  simp [waiting]

@[simp] theorem waiting_append (first second : List (List (Node L))) :
    waiting (first ++ second) = waiting first + waiting second := by
  simp [waiting]

mutual

theorem waiting_deferred (node : Node L) : waiting node.deferred = node.collections := by
  match node with
  | .leaf _ | .scalarMapping _ | .sequenceMapping _ => rfl
  | .collection items => simp [Node.deferred, Node.collections, waiting]
  | .mapping pairs => exact waiting_deferredOfPairs pairs

theorem waiting_deferredOfPairs (pairs : List (Node L × Node L)) :
    waiting (deferredOfPairs pairs) = collectionsOfPairs pairs := by
  match pairs with
  | [] => rfl
  | (key, value) :: rest =>
      simp only [deferredOfPairs, collectionsOfPairs, waiting_append, waiting_deferred key,
        waiting_deferred value, waiting_deferredOfPairs rest]

end

/-- What the nodes of one generator lead to waits afterwards. -/
theorem waiting_deferredOfNodes (items : List (Node L)) :
    waiting (deferredOfNodes items) = collectionsOfNodes items := by
  induction items with
  | nil => rfl
  | cons node rest ih =>
      rw [deferredOfNodes, List.flatMap_cons, waiting_append,
        waiting_deferred, ← deferredOfNodes, ih,
        collectionsOfNodes]

/-- A generator that has run is gone, and only what it leads to is new. -/
theorem waiting_next (items : List (Node L)) (queue : List (List (Node L))) :
    waiting (queue ++ deferredOfNodes items) < waiting (items :: queue) := by
  rw [waiting_append, waiting_deferredOfNodes, waiting_cons]
  omega

namespace YamlLibrary

variable (library : YamlLibrary L O)

/-- The loop of `construct_document` over `state_generators`. -/
def runGenerators : List (List (Node L)) → Except Raised Unit
  | [] => .ok ()
  | items :: queue => do
      library.constructSequence items
      runGenerators (queue ++ deferredOfNodes items)
termination_by queue => waiting queue
decreasing_by exact waiting_next items queue

/-- `construct_document(node)`. -/
def constructDocument (root : Node L) : Except Raised (Loaded O) := do
  let document ← library.constructObject root
  library.runGenerators root.deferred
  return document

end YamlLibrary

/-! ## The steps of building -/

/-- What one step of building does. -/
inductive Step (L : Type)
  /-- A scalar is constructed. -/
  | build (node : L)
  /-- A key is looked for among those before it. -/
  | insert (earlier : List (Node L)) (key : Node L)
  /-- What has the tag of a mapping and is none is taken apart. -/
  | unpack (error : Raised)

mutual

/-- The steps that build a node, without those of the generators. -/
def Node.steps : Node L → List (Step L)
  | .leaf node => [.build node]
  | .collection _ => []
  | .mapping pairs => stepsOfPairs [] pairs
  | .scalarMapping value => if value = [] then [] else [.unpack .valueError]
  | .sequenceMapping items => if items.isEmpty then [] else [.unpack .typeError]

/-- The steps that build a mapping, after these keys. -/
def stepsOfPairs (earlier : List (Node L)) : List (Node L × Node L) → List (Step L)
  | [] => []
  | (key, value) :: rest =>
      key.steps ++ .insert earlier key :: (value.steps ++ stepsOfPairs (earlier ++ [key]) rest)

end

/-- The steps of the generators. -/
def stepsOfGenerators : List (List (Node L)) → List (Step L)
  | [] => []
  | items :: queue =>
      items.flatMap Node.steps ++ stepsOfGenerators (queue ++ deferredOfNodes items)
termination_by queue => waiting queue
decreasing_by exact waiting_next items queue

/-- The steps that build a document, in the order in which they are taken. -/
def stepsOfDocument (root : Node L) : List (Step L) :=
  root.steps ++ stepsOfGenerators root.deferred

namespace YamlLibrary

variable (library : YamlLibrary L O)

/-- What a scalar builds. -/
def scalar? : Node L → Option (Atom O)
  | .leaf node => (library.build node).toOption
  | _ => none

/-- What goes wrong when a key is looked for. No sequence and no mapping can be hashed. -/
def keyProblem (earlier : List (Node L)) : Node L → Option Raised
  | .leaf node =>
      match library.build node with
      | .error _ => none
      | .ok key =>
          if earlier.any fun before => (library.scalar? before).any (library.sameKey key) then
            some (library.repeatedKey key)
          else none
  | _ => some .typeError

/-- What goes wrong in a step. -/
def problem : Step L → Option Raised
  | .build node =>
      match library.build node with
      | .error raised => some raised
      | .ok _ => none
  | .insert earlier key => library.keyProblem earlier key
  | .unpack raised => some raised

/-- The first thing that goes wrong in these steps. -/
def firstProblem (steps : List (Step L)) : Option Raised :=
  steps.findSome? library.problem

@[simp] theorem firstProblem_nil : library.firstProblem [] = none := rfl

@[simp] theorem firstProblem_cons (step : Step L) (steps : List (Step L)) :
    library.firstProblem (step :: steps) =
      (library.problem step).or (library.firstProblem steps) := by
  simp only [firstProblem, List.findSome?_cons]
  cases library.problem step <;> rfl

@[simp] theorem firstProblem_append (first second : List (Step L)) :
    library.firstProblem (first ++ second) =
      (library.firstProblem first).or (library.firstProblem second) := by
  simp [firstProblem, List.findSome?_append]

end YamlLibrary

/-! ## Building ends with the first problem -/

/-- What goes wrong first is raised, and without it there is a result. -/
def Reports {α : Type} (result : Except Raised α) (first : Option Raised) : Prop :=
  match result with
  | .error raised => first = some raised
  | .ok _ => first = none

/-- What goes wrong in the first part is raised before the second. -/
theorem Reports.bind {α β : Type} {result : Except Raised α} {rest : α → Except Raised β}
    {first second : Option Raised} (hresult : Reports result first)
    (hrest : ∀ value, result = .ok value → Reports (rest value) second) :
    Reports (result >>= rest) (first.or second) := by
  cases result with
  | error raised =>
      obtain rfl : first = some raised := hresult
      exact rfl
  | ok value =>
      obtain rfl : first = none := hresult
      exact hrest value rfl

theorem Reports.map {α β : Type} {result : Except Raised α} {first : Option Raised}
    (h : Reports result first) (f : α → β) : Reports (result.map f) first := by
  cases result <;> exact h

namespace YamlLibrary

variable {library : YamlLibrary L O}

/-- Only a scalar builds an atom. -/
theorem exists_leaf_of_constructObject {node : Node L} {atom : Atom O}
    (h : library.constructObject node = .ok (.atom atom)) :
    ∃ leaf, node = .leaf leaf ∧ library.build leaf = .ok atom := by
  cases node with
  | leaf leaf =>
      cases hbuild : library.build leaf with
      | error raised => simp [constructObject, hbuild, Except.map] at h
      | ok found =>
          simp only [constructObject, hbuild, Except.map, Except.ok.injEq, Loaded.atom.injEq] at h
          exact ⟨leaf, rfl, h ▸ hbuild⟩
  | collection items => cases h
  | mapping pairs =>
      cases hpairs : library.constructUniqueMapping [] pairs <;>
        simp [constructObject, hpairs, Except.map] at h
  | scalarMapping value => simp only [constructObject] at h; split at h <;> cases h
  | sequenceMapping items => simp only [constructObject] at h; split at h <;> cases h

theorem scalar?_of_constructObject {node : Node L} {atom : Atom O}
    (h : library.constructObject node = .ok (.atom atom)) : library.scalar? node = some atom := by
  obtain ⟨leaf, rfl, hbuild⟩ := exists_leaf_of_constructObject h
  simp [scalar?, hbuild, Except.toOption]

/-- The keys so far are built of these nodes. -/
def AreKeys (library : YamlLibrary L O) (earlier : List (Node L))
    (mapping : List (Atom O × Loaded O)) : Prop :=
  List.Forall₂ (fun node item => library.constructObject node = .ok (.atom item.1)) earlier mapping

/-- The dictionary holds the key just if one of the nodes builds it. -/
theorem AreKeys.any_eq {earlier : List (Node L)} {mapping : List (Atom O × Loaded O)}
    (h : library.AreKeys earlier mapping) (key : Atom O) :
    (earlier.any fun before => (library.scalar? before).any (library.sameKey key)) =
      mapping.any fun item => library.sameKey key item.1 := by
  induction h with
  | nil => rfl
  | cons hnode _ ih =>
      rw [List.any_cons, List.any_cons, ih, scalar?_of_constructObject hnode, Option.any_some]

/-- A key that is built is looked for as the step says. -/
theorem AreKeys.keyProblem_of_scalar {earlier : List (Node L)} {mapping : List (Atom O × Loaded O)}
    (h : library.AreKeys earlier mapping) {node : Node L} {key : Atom O}
    (hkey : library.constructObject node = .ok (.atom key)) :
    library.keyProblem earlier node =
      if mapping.any fun item => library.sameKey key item.1 then some (library.repeatedKey key)
      else none := by
  obtain ⟨leaf, rfl, hbuild⟩ := exists_leaf_of_constructObject hkey
  simp only [keyProblem, hbuild, h.any_eq key]

/-- Any other key cannot be hashed. -/
theorem keyProblem_of_unhashable {earlier : List (Node L)} {node : Node L} {loaded : Loaded O}
    (hkey : library.constructObject node = .ok loaded) (hloaded : ∀ key, loaded ≠ .atom key) :
    library.keyProblem earlier node = some .typeError := by
  cases node with
  | leaf leaf =>
      cases hbuild : library.build leaf with
      | error raised => simp [constructObject, hbuild, Except.map] at hkey
      | ok atom =>
          simp only [constructObject, hbuild, Except.map, Except.ok.injEq] at hkey
          exact absurd hkey.symm (hloaded atom)
  | collection items => rfl
  | mapping pairs => rfl
  | scalarMapping value => rfl
  | sequenceMapping items => rfl

mutual

/-- **Building a node** ends with the first of its steps that goes wrong. -/
theorem reports_constructObject (node : Node L) :
    Reports (library.constructObject node) (library.firstProblem node.steps) := by
  match node with
  | .leaf leaf =>
      cases hbuild : library.build leaf <;>
        simp [constructObject, Node.steps, problem, hbuild, Except.map, Reports]
  | .collection items => exact rfl
  | .mapping pairs => exact (reports_constructUniqueMapping List.Forall₂.nil pairs).map _
  | .scalarMapping value =>
      simp only [constructObject, Node.steps]
      split <;> simp [Reports, problem]
  | .sequenceMapping items =>
      simp only [constructObject, Node.steps]
      split <;> simp [Reports, problem]

/-- The loop over the pairs. Its invariant is that the keys of the dictionary are built of the keys
of the pairs before. -/
theorem reports_constructUniqueMapping {earlier : List (Node L)}
    {mapping : List (Atom O × Loaded O)} (hearlier : library.AreKeys earlier mapping)
    (pairs : List (Node L × Node L)) :
    Reports (library.constructUniqueMapping mapping pairs)
      (library.firstProblem (stepsOfPairs earlier pairs)) := by
  match pairs with
  | [] => exact rfl
  | (keyNode, valueNode) :: rest =>
      rw [constructUniqueMapping, stepsOfPairs, firstProblem_append, firstProblem_cons,
        firstProblem_append]
      refine (reports_constructObject keyNode).bind fun loaded hkey => ?_
      cases loaded with
      | atom key =>
          simp only [problem, hearlier.keyProblem_of_scalar hkey]
          split
          · exact rfl
          · refine (reports_constructObject valueNode).bind fun value hvalue => ?_
            exact reports_constructUniqueMapping
              (List.rel_append hearlier (.cons hkey .nil)) rest
      | collection =>
          rw [problem, keyProblem_of_unhashable hkey (by simp)]
          exact rfl
      | dict items =>
          rw [problem, keyProblem_of_unhashable hkey (by simp)]
          exact rfl

end

/-- The loop of one generator. -/
theorem reports_constructSequence (items : List (Node L)) :
    Reports (library.constructSequence items)
      (library.firstProblem (items.flatMap Node.steps)) := by
  induction items with
  | nil => exact rfl
  | cons node rest ih =>
      rw [constructSequence, List.flatMap_cons, firstProblem_append]
      exact (reports_constructObject node).bind fun _ _ => ih

/-- All generators. The induction is on the queue, which has fewer of them ahead after each. -/
theorem reports_runGenerators (queue : List (List (Node L))) :
    Reports (library.runGenerators queue) (library.firstProblem (stepsOfGenerators queue)) := by
  induction queue using stepsOfGenerators.induct with
  | case1 =>
      rw [runGenerators, stepsOfGenerators]
      exact rfl
  | case2 items queue ih =>
      rw [runGenerators, stepsOfGenerators, firstProblem_append]
      exact (reports_constructSequence items).bind fun _ _ => ih

/-- **Building a document** ends with the first step that goes wrong. -/
theorem reports_constructDocument (root : Node L) :
    Reports (library.constructDocument root) (library.firstProblem (stepsOfDocument root)) := by
  rw [constructDocument, stepsOfDocument, firstProblem_append]
  refine (reports_constructObject root).bind fun document _ => ?_
  exact (reports_runGenerators root.deferred).map fun _ => document

/-! ## What is built of a mapping -/

/-- The dictionary of a mapping: an item for each pair, and no key twice. -/
structure IsBuilt (library : YamlLibrary L O) (pairs : List (Node L × Node L))
    (items : List (Atom O × Loaded O)) : Prop where
  built : List.Forall₂ (fun pair item =>
    library.constructObject pair.1 = .ok (.atom item.1) ∧
      library.constructObject pair.2 = .ok item.2) pairs items
  apart : items.Pairwise fun before item => library.sameKey item.1 before.1 = false

/-- The loop adds an item for each pair, with a key that was not there. -/
theorem exists_items_of_constructUniqueMapping {mapping result : List (Atom O × Loaded O)}
    {pairs : List (Node L × Node L)}
    (hapart : mapping.Pairwise fun before item => library.sameKey item.1 before.1 = false)
    (h : library.constructUniqueMapping mapping pairs = .ok result) :
    ∃ items, result = mapping ++ items ∧
      List.Forall₂ (fun pair item => library.constructObject pair.1 = .ok (.atom item.1) ∧
        library.constructObject pair.2 = .ok item.2) pairs items ∧
      result.Pairwise fun before item => library.sameKey item.1 before.1 = false := by
  induction pairs generalizing mapping with
  | nil =>
      obtain rfl := Except.ok.inj h
      exact ⟨[], by simp, .nil, hapart⟩
  | cons pair rest ih =>
      obtain ⟨keyNode, valueNode⟩ := pair
      rw [constructUniqueMapping] at h
      obtain ⟨loaded, hkey, h⟩ := of_except_bind h
      cases loaded with
      | atom key =>
          simp only at h
          split at h
          · cases h
          · rename_i hfresh
            obtain ⟨value, hvalue, h⟩ := of_except_bind h
            have hnext : (mapping ++ [(key, value)]).Pairwise fun before item =>
                library.sameKey item.1 before.1 = false := by
              refine List.pairwise_append.2 ⟨hapart, List.pairwise_singleton _ _, ?_⟩
              intro before hbefore item hitem
              obtain rfl := List.mem_singleton.1 hitem
              simp only [List.any_eq_true, not_exists, not_and, Bool.not_eq_true] at hfresh
              exact hfresh before hbefore
            obtain ⟨items, rfl, hitems, hall⟩ := ih hnext h
            exact ⟨(key, value) :: items, by simp, .cons ⟨hkey, hvalue⟩ hitems, hall⟩
      | collection => cases h
      | dict items => cases h

/-- **A mapping** is a dictionary with an item for each of its pairs. -/
theorem exists_items_of_constructObject {pairs : List (Node L × Node L)} {loaded : Loaded O}
    (h : library.constructObject (.mapping pairs) = .ok loaded) :
    ∃ items, loaded = .dict items ∧ library.IsBuilt pairs items := by
  rw [constructObject] at h
  cases hpairs : library.constructUniqueMapping [] pairs with
  | error raised => simp [hpairs, Except.map] at h
  | ok result =>
      simp only [hpairs, Except.map, Except.ok.injEq] at h
      obtain ⟨items, rfl, hitems, hall⟩ :=
        exists_items_of_constructUniqueMapping List.Pairwise.nil hpairs
      exact ⟨result, h.symm, hitems, hall⟩

end YamlLibrary

end Wolt.Engine
