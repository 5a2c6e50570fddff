/-
# Loading the mapping file

`load_mappings` of `app/config.py` from the bytes of the file. It should raise `ConfigError` or
return one entry for each listener of the file.

It does so unless another exception is the first that is raised. The `except` clause around
`yaml.load` names `OSError` and `yaml.YAMLError`: bytes that are no UTF-8, a key that cannot be
hashed, the tag of a mapping on anything else and a scalar that its constructor does not expect all
raise something else. After it only an integer key that is too long to print is left.
-/

import Wolt.Engine.MappingNodes

namespace Wolt.Engine

open Wolt.Python Wolt.Wake

variable {L O : Type}

/-! ## The file -/

/-- The text of bytes that are UTF-8. -/
def decodeUtf8 (bytes : Bytes) : Option Text :=
  (String.fromUTF8? ⟨bytes.toArray⟩).map String.toList

/-- The line ends of a file that is opened as a text. -/
def universalNewlines : Text → Text
  | '\r' :: '\n' :: rest => '\n' :: universalNewlines rest
  | '\r' :: rest => '\n' :: universalNewlines rest
  | c :: rest => c :: universalNewlines rest
  | [] => []

/-- The `except` clause around `yaml.load`. -/
def Raised.caught : Raised → Raised
  | .osError reason | .yamlError reason => .configError (.cannotLoad reason)
  | raised => raised

/-- It leaves `load_mappings` as a `ConfigError`. -/
def Raised.isReported : Raised → Bool
  | .osError _ | .yamlError _ | .configError _ => true
  | _ => false

theorem Raised.isReported_iff {raised : Raised} :
    raised.isReported = true ↔ ∃ error, raised.caught = .configError error := by
  cases raised <;> simp [isReported, caught]

/-- `dict.get(key)`, of what is a dictionary. -/
def Loaded.get (key : Text) : Loaded O → Option (Loaded O)
  | .dict items => items.findSome? fun item =>
      match item.1 with
      | .text found => if found = key then some item.2 else none
      | .other _ => none
  | _ => none

/-- A key as `load_mappings` compares it. -/
def Atom.toValue : Atom O → Value
  | .text found => .string found
  | .other _ => .null

mutual

/-- A value as `load_mappings` reads it. It tells texts and dictionaries from everything else. -/
def Loaded.toYaml : Loaded O → Yaml
  | .atom atom => .scalar atom.toValue
  | .collection => .scalar (.array [])
  | .dict items => .mapping (yamlItems items)

def yamlItems : List (Atom O × Loaded O) → List (Value × Yaml)
  | [] => []
  | (key, value) :: rest => (key.toValue, value.toYaml) :: yamlItems rest

end

namespace YamlLibrary

variable (library : YamlLibrary L O)

/-- `path.open` and `yaml.load`. -/
def loadDocument (file : Except Text Bytes) : Except Raised (Option (Loaded O)) :=
  match file with
  | .error reason => .error (.osError reason)
  | .ok bytes =>
      match decodeUtf8 bytes with
      | none =>
          match library.refusesEarly bytes with
          | some reason => .error (.yamlError reason)
          | none => .error .unicodeDecodeError
      | some text =>
          match library.compose (universalNewlines text) with
          | .error reason => .error (.yamlError reason)
          | .ok none => .ok none
          | .ok (some root) => (library.constructDocument root).map some

/-- `_integer(str(raw_port), "listener port", 1024, 65535)`. The text is made outside of its
`try`. -/
def listenerPort (rawPort : Atom O) : Except Raised ℤ :=
  match library.str rawPort with
  | none => .error .valueError
  | some text =>
      match library.readInt text with
      | none => .error (.configError (.invalid .portNotInteger))
      | some port =>
          if 1024 ≤ port ∧ port ≤ 65535 then .ok port
          else .error (.configError (.invalid .portOutOfRange))

/-- The loop of `load_mappings`. -/
def readListeners : List (ℤ × InterfaceMapping) → List (Atom O × Loaded O) →
    Except Raised (List (ℤ × InterfaceMapping))
  | mappings, [] => .ok mappings
  | mappings, (rawPort, rawMapping) :: items => do
      let port ← library.listenerPort rawPort
      if port ∈ mappings.map Prod.fst then
        .error (.configError (.invalid (.duplicatePort port)))
      else
        let mapping ← (readMapping port rawMapping.toYaml).mapError fun error =>
          .configError (.invalid error)
        readListeners (mappings ++ [(port, mapping)]) items

/-- `load_mappings`, of the document that was read. -/
def readDocument (document : Option (Loaded O)) : Except Raised (List (ℤ × InterfaceMapping)) :=
  match document.bind (Loaded.get "listeners".toList) with
  | some (.dict []) => .error (.configError (.invalid .noListener))
  | some (.dict items) => library.readListeners [] items
  | _ => .error (.configError (.invalid .noListeners))

/-- `load_mappings`. -/
def loadMappings (file : Except Text Bytes) : Except Raised (List (ℤ × InterfaceMapping)) := do
  let document ← (library.loadDocument file).mapError Raised.caught
  library.readDocument document

/-! ## The promise and when it is kept -/

/-- The node is this text. -/
def IsText (node : Node L) (text : Text) : Prop :=
  library.scalar? node = some (.text text)

/-- A pair of the mapping has this key and this value. -/
def Holds (pairs : List (Node L × Node L)) (key : Text) (value : Node L) : Prop :=
  ∃ node, (node, value) ∈ pairs ∧ library.IsText node key

/-- These are the pairs of the `listeners` object. -/
def HasListeners (root : Node L) (listeners : List (Node L × Node L)) : Prop :=
  ∃ pairs, root = .mapping pairs ∧ library.Holds pairs "listeners".toList (.mapping listeners)

/-- The entry is the one of this pair: its port is the number that the key prints, and its mapping
has the interface and the address, and nothing else. -/
structure IsListed (pair : Node L × Node L) (entry : ℤ × InterfaceMapping) : Prop where
  port : ∃ key text, library.scalar? pair.1 = some key ∧ library.str key = some text ∧
    library.readInt text = some entry.1
  range : 1024 ≤ entry.1 ∧ entry.1 ≤ 65535
  pattern : interfacePattern entry.2.interface = true
  mapping : ∃ pairs interface gateway gatewayIp address, pair.2 = .mapping pairs ∧
    (∀ item ∈ pairs, library.IsText item.1 "interface".toList ∨
      library.IsText item.1 "gateway_ip".toList) ∧
    library.Holds pairs "interface".toList interface ∧
    library.IsText interface entry.2.interface ∧
    library.Holds pairs "gateway_ip".toList gateway ∧ library.IsText gateway gatewayIp ∧
    ipAddress gatewayIp = some address ∧ entry.2.gatewayIp = address.str

/-- PyYAML reads this node from the file. -/
def Reads (file : Except Text Bytes) (root : Node L) : Prop :=
  ∃ bytes text, file = .ok bytes ∧ decodeUtf8 bytes = some text ∧
    library.compose (universalNewlines text) = .ok (some root)

/-- What `load_mappings` should do: raise `ConfigError`, or return the entries of all listeners. -/
def KeepsPromise (file : Except Text Bytes) : Prop :=
  match library.loadMappings file with
  | .error raised => ∃ error, raised = .configError error
  | .ok mappings =>
      (∃ root listeners, library.Reads file root ∧ library.HasListeners root listeners ∧
      List.Forall₂ library.IsListed listeners mappings) ∧
    (mappings.map Prod.fst).Nodup ∧ ∀ entry ∈ mappings, 1024 ≤ entry.1 ∧ entry.1 ≤ 65535 ∧
      interfacePattern entry.2.interface = true ∧ (ipAddress entry.2.gatewayIp).isSome = true

/-- After listeners that can all be loaded comes a key that cannot be printed. -/
def HasUnprintablePort (root : Node L) : Prop :=
  ∃ before key value after mappings atom,
    library.HasListeners root (before ++ (key, value) :: after) ∧
    List.Forall₂ library.IsListed before mappings ∧ (mappings.map Prod.fst).Nodup ∧
    library.scalar? key = some atom ∧ library.str atom = none

/-- What goes wrong first is something that `load_mappings` reports. -/
def IsReported (file : Except Text Bytes) : Prop :=
  match file with
  | .error _ => True
  | .ok bytes =>
      match decodeUtf8 bytes with
      | none => (library.refusesEarly bytes).isSome = true
      | some text =>
          match library.compose (universalNewlines text) with
          | .error _ | .ok none => True
          | .ok (some root) =>
              match library.firstProblem (stepsOfDocument root) with
              | some raised => raised.isReported = true
              | none => ¬ library.HasUnprintablePort root

end YamlLibrary

/-! ## What is read of a value -/

theorem yamlItems_eq_map (items : List (Atom O × Loaded O)) :
    yamlItems items = items.map fun item => (item.1.toValue, item.2.toYaml) := by
  induction items with
  | nil => rfl
  | cons item rest ih => rw [yamlItems, ih, List.map_cons]

/-- A key of a value is found with what is read of it. -/
theorem Loaded.get_toYaml (key : Text) (loaded : Loaded O) :
    loaded.toYaml.get key = (loaded.get key).map Loaded.toYaml := by
  cases loaded with
  | atom atom => rfl
  | collection => rfl
  | dict items =>
      rw [Loaded.toYaml, yamlItems_eq_map, Yaml.get, Loaded.get]
      induction items with
      | nil => rfl
      | cons item rest ih =>
          obtain ⟨atom, value⟩ := item
          rw [List.map_cons, List.findSome?_cons, List.findSome?_cons, ih]
          cases atom with
          | other _ => rfl
          | text found =>
              simp only [Atom.toValue]
              by_cases hfound : found = key <;> simp [hfound]

theorem Loaded.toYaml_eq_string {loaded : Loaded O} {text : Text} :
    loaded.toYaml = .scalar (.string text) ↔ loaded = .atom (.text text) := by
  cases loaded with
  | atom atom => cases atom <;> simp [Loaded.toYaml, Atom.toValue]
  | collection => simp [Loaded.toYaml]
  | dict items => simp [Loaded.toYaml]

/-- What makes a raw mapping the mapping of its port. -/
theorem readMapping_eq_ok_iff {port : ℤ} {raw : Yaml} {mapping : InterfaceMapping} :
    readMapping port raw = .ok mapping ↔ ∃ items gatewayIp address, raw = .mapping items ∧
      hasMappingKeys items = true ∧
      raw.get "interface".toList = some (.scalar (.string mapping.interface)) ∧
      interfacePattern mapping.interface = true ∧
      raw.get "gateway_ip".toList = some (.scalar (.string gatewayIp)) ∧
      ipAddress gatewayIp = some address ∧ mapping.gatewayIp = address.str := by
  constructor
  · intro h
    cases raw with
    | scalar value => cases h
    | mapping items =>
        rw [readMapping] at h
        split_ifs at h with hkeys
        split at h
        · rename_i interface hinterface
          split_ifs at h with hpattern
          split at h
          · rename_i gatewayIp hgateway
            cases haddress : ipAddress gatewayIp with
            | none => simp [haddress] at h
            | some address =>
                simp only [haddress, Except.ok.injEq] at h
                subst h
                exact ⟨items, gatewayIp, address, rfl, by simpa using hkeys, hinterface,
                  by simpa using hpattern, hgateway, haddress, rfl⟩
          · cases h
        · cases h
  · rintro ⟨items, gatewayIp, address, rfl, hkeys, hinterface, hpattern, hgateway, haddress, htext⟩
    simp only [readMapping, hkeys, hinterface, hpattern, hgateway, haddress, Bool.not_true,
      Bool.false_eq_true, if_false, ← htext]

/-- An item of a list for each item of the other. -/
theorem exists_mem_left_of_forall₂ {α β : Type} {R : α → β → Prop} {first : List α}
    {second : List β} (h : List.Forall₂ R first second) {b : β} (hb : b ∈ second) :
    ∃ a ∈ first, R a b := by
  induction h with
  | nil => cases hb
  | @cons a c first second hac _ ih =>
      rcases List.mem_cons.1 hb with rfl | hb
      · exact ⟨a, List.mem_cons_self, hac⟩
      · obtain ⟨found, hfound, hR⟩ := ih hb
        exact ⟨found, List.mem_cons_of_mem _ hfound, hR⟩

/-- Related lists are split alike. -/
theorem exists_append_of_forall₂ {α β : Type} {R : α → β → Prop} {before after : List α} {a : α}
    {second : List β} (h : List.Forall₂ R (before ++ a :: after) second) :
    ∃ before' b after', second = before' ++ b :: after' ∧ List.Forall₂ R before before' ∧
      R a b := by
  induction before generalizing second with
  | nil =>
      obtain ⟨b, after', hab, _, rfl⟩ := List.forall₂_cons_left_iff.1 h
      exact ⟨[], b, after', rfl, .nil, hab⟩
  | cons first before ih =>
      obtain ⟨c, rest, hc, hrest, rfl⟩ := List.forall₂_cons_left_iff.1 h
      obtain ⟨before', b, after', rfl, hbefore, hab⟩ := ih hrest
      exact ⟨c :: before', b, after', rfl, .cons hc hbefore, hab⟩

namespace YamlLibrary

variable {library : YamlLibrary L O}

/-! ## The dictionary of a mapping -/

/-- A key of a dictionary that is built is found with the value of its item. -/
theorem get_eq_some_iff {items : List (Atom O × Loaded O)} {key : Text} {value : Loaded O}
    (hapart : items.Pairwise fun before item => library.sameKey item.1 before.1 = false) :
    (Loaded.dict items).get key = some value ↔ (.text key, value) ∈ items := by
  induction items with
  | nil => simp [Loaded.get]
  | cons item rest ih =>
      obtain ⟨atom, found⟩ := item
      obtain ⟨hhead, hrest⟩ := List.pairwise_cons.1 hapart
      have hcons : (Loaded.dict ((atom, found) :: rest)).get key =
          match atom with
          | .text text => if text = key then some found else (Loaded.dict rest).get key
          | .other _ => (Loaded.dict rest).get key := by
        rw [Loaded.get, List.findSome?_cons]
        cases atom with
        | text text => by_cases htext : text = key <;> simp [htext, Loaded.get]
        | other _ => rfl
      rw [hcons]
      cases atom with
      | other _ =>
          simp only [List.mem_cons, Prod.mk.injEq, reduceCtorEq, false_and, false_or, ih hrest]
      | text text =>
          by_cases htext : text = key
          · subst htext
            simp only [if_true, Option.some.injEq, List.mem_cons, Prod.mk.injEq, true_and]
            constructor
            · exact fun heq => .inl heq.symm
            · rintro (heq | hmem)
              · exact heq.symm
              · simpa [sameKey] using hhead _ hmem
          · simp only [if_neg htext, List.mem_cons, Prod.mk.injEq, Atom.text.injEq, ih hrest,
              Ne.symm htext, false_and, false_or]

/-- A text is built as it is. -/
theorem constructObject_of_isText {node : Node L} {text : Text} (h : library.IsText node text) :
    library.constructObject node = .ok (.atom (.text text)) := by
  cases node with
  | leaf leaf =>
      cases hbuild : library.build leaf with
      | error raised => simp [IsText, scalar?, hbuild, Except.toOption] at h
      | ok atom =>
          simp only [IsText, scalar?, hbuild, Except.toOption, Option.some.injEq] at h
          simp [constructObject, hbuild, Except.map, h]
  | collection items => cases h
  | mapping pairs => cases h
  | scalarMapping value => cases h
  | sequenceMapping items => cases h

/-- The text of a node is what is built of it. -/
theorem isText_iff {node : Node L} {loaded : Loaded O} {text : Text}
    (h : library.constructObject node = .ok loaded) :
    library.IsText node text ↔ loaded = .atom (.text text) := by
  constructor
  · intro htext
    exact Except.ok.inj (h.symm.trans (constructObject_of_isText htext))
  · rintro rfl
    exact scalar?_of_constructObject h

/-- **A pair** of the mapping is an item of its dictionary. -/
theorem IsBuilt.get_eq_some {pairs : List (Node L × Node L)} {items : List (Atom O × Loaded O)}
    (h : library.IsBuilt pairs items) {key : Text} {node : Node L} {value : Loaded O}
    (hholds : library.Holds pairs key node) (hvalue : library.constructObject node = .ok value) :
    (Loaded.dict items).get key = some value := by
  obtain ⟨keyNode, hmem, hkey⟩ := hholds
  obtain ⟨item, hitem, hbuiltKey, hbuiltValue⟩ := exists_mem_left_of_forall₂ h.built.flip hmem
  rw [get_eq_some_iff h.apart]
  have hatom : item.1 = .text key := by
    simpa using (isText_iff hbuiltKey).1 hkey
  have hsame : item.2 = value := Except.ok.inj (hbuiltValue.symm.trans hvalue)
  rw [← hatom, ← hsame]
  exact hitem

/-- And an item is a pair. -/
theorem IsBuilt.exists_holds {pairs : List (Node L × Node L)} {items : List (Atom O × Loaded O)}
    (h : library.IsBuilt pairs items) {key : Text} {value : Loaded O}
    (hget : (Loaded.dict items).get key = some value) :
    ∃ node, library.Holds pairs key node ∧ library.constructObject node = .ok value := by
  rw [get_eq_some_iff h.apart] at hget
  obtain ⟨⟨keyNode, node⟩, hmem, hkey, hvalue⟩ := exists_mem_left_of_forall₂ h.built hget
  exact ⟨node, ⟨keyNode, hmem, (isText_iff hkey).2 rfl⟩, hvalue⟩

/-- A dictionary that is not empty is built of a mapping. -/
theorem exists_pairs_of_dict {node : Node L} {item : Atom O × Loaded O}
    {items : List (Atom O × Loaded O)}
    (h : library.constructObject node = .ok (.dict (item :: items))) :
    ∃ pairs, node = .mapping pairs ∧ library.IsBuilt pairs (item :: items) := by
  cases node with
  | leaf leaf =>
      cases hbuild : library.build leaf <;> simp [constructObject, hbuild, Except.map] at h
  | collection nodes => cases h
  | mapping pairs =>
      obtain ⟨found, hfound, hbuilt⟩ := exists_items_of_constructObject h
      obtain rfl := Loaded.dict.inj hfound
      exact ⟨pairs, rfl, hbuilt⟩
  | scalarMapping value =>
      simp only [constructObject] at h
      split at h <;> simp at h
  | sequenceMapping nodes =>
      simp only [constructObject] at h
      split at h <;> simp at h

/-- The keys of the pairs are the keys of the items. -/
theorem IsBuilt.forall_keys_iff {pairs : List (Node L × Node L)} {items : List (Atom O × Loaded O)}
    (h : library.IsBuilt pairs items) {first second : Text} :
    (∀ pair ∈ pairs, library.IsText pair.1 first ∨ library.IsText pair.1 second) ↔
      ∀ item ∈ items, item.1 = .text first ∨ item.1 = .text second := by
  constructor
  · intro hpairs item hitem
    obtain ⟨pair, hpair, hkey, _⟩ := exists_mem_left_of_forall₂ h.built hitem
    simpa [isText_iff hkey] using hpairs pair hpair
  · intro hitems pair hpair
    obtain ⟨item, hitem, hkey, _⟩ := exists_mem_left_of_forall₂ h.built.flip hpair
    simpa [isText_iff hkey] using hitems item hitem

/-- `set(raw_mapping) == {"interface", "gateway_ip"}`, of a dictionary that is built. -/
theorem hasMappingKeys_yamlItems (items : List (Atom O × Loaded O)) :
    hasMappingKeys (yamlItems items) = true ↔
      (∀ item ∈ items, item.1 = .text "interface".toList ∨ item.1 = .text "gateway_ip".toList) ∧
        ((Loaded.dict items).get "interface".toList).isSome = true ∧
        ((Loaded.dict items).get "gateway_ip".toList).isSome = true := by
  have hget : ∀ key, ((Yaml.mapping (yamlItems items)).get key).isSome =
      ((Loaded.dict items).get key).isSome := fun key => by
    rw [← Loaded.toYaml, Loaded.get_toYaml, Option.isSome_map]
  rw [hasMappingKeys, hget, hget, Bool.and_eq_true, Bool.and_eq_true, and_assoc, yamlItems_eq_map,
    List.all_map, List.all_eq_true]
  refine and_congr_left fun _ => forall₂_congr fun item _ => ?_
  obtain ⟨atom, value⟩ := item
  cases atom with
  | text found =>
      simp only [Function.comp_apply, Atom.toValue, Atom.text.injEq, Bool.or_eq_true,
        decide_eq_true_eq]
  | other _ =>
      simp only [Function.comp_apply, Atom.toValue, reduceCtorEq, Bool.false_eq_true, or_self]

/-! ## One listener -/

/-- The body of the loop makes this entry of the item. -/
structure Accepts (library : YamlLibrary L O) (item : Atom O × Loaded O)
    (entry : ℤ × InterfaceMapping) : Prop where
  port : library.listenerPort item.1 = .ok entry.1
  mapping : readMapping entry.1 item.2.toYaml = .ok entry.2

theorem listenerPort_eq_ok_iff {key : Atom O} {port : ℤ} :
    library.listenerPort key = .ok port ↔
      (∃ text, library.str key = some text ∧ library.readInt text = some port) ∧
        1024 ≤ port ∧ port ≤ 65535 := by
  unfold listenerPort
  cases library.str key with
  | none => simp
  | some text =>
      cases hread : library.readInt text with
      | none => simp [hread]
      | some found =>
          simp only [hread, Option.some.injEq, exists_eq_left']
          split
          · rename_i hrange
            simp only [Except.ok.injEq]
            exact ⟨fun heq => ⟨heq, heq ▸ hrange⟩, And.left⟩
          · rename_i hrange
            simp only [reduceCtorEq, false_iff]
            rintro ⟨rfl, hport⟩
            exact hrange hport

/-- Only a key that cannot be printed escapes. -/
theorem listenerPort_eq_error {key : Atom O} {raised : Raised}
    (h : library.listenerPort key = .error raised) :
    (∃ error, raised = .configError error) ∨ library.str key = none := by
  unfold listenerPort at h
  cases hstr : library.str key with
  | none => exact .inr rfl
  | some text =>
      rw [hstr] at h
      simp only at h
      split at h
      · exact .inl ⟨_, (Except.error.inj h).symm⟩
      · split at h
        · cases h
        · exact .inl ⟨_, (Except.error.inj h).symm⟩

/-- **The body of the loop** makes of an item the entry that its pair says. -/
theorem isListed_iff_accepts {pair : Node L × Node L} {item : Atom O × Loaded O}
    {entry : ℤ × InterfaceMapping} (hkey : library.constructObject pair.1 = .ok (.atom item.1))
    (hvalue : library.constructObject pair.2 = .ok item.2) :
    library.IsListed pair entry ↔ library.Accepts item entry := by
  have hscalar : library.scalar? pair.1 = some item.1 := scalar?_of_constructObject hkey
  constructor
  · rintro ⟨⟨key, text, hatom, hstr, hread⟩, hrange, hpattern, pairs, interface, gateway, gatewayIp,
      address, hpairs, hkeys, hinterface, hinterfaceText, hgateway, hgatewayText, haddress, htext⟩
    obtain rfl : item.1 = key := Option.some.inj (hscalar.symm.trans hatom)
    refine ⟨listenerPort_eq_ok_iff.2 ⟨⟨text, hstr, hread⟩, hrange⟩, ?_⟩
    rw [hpairs] at hvalue
    obtain ⟨items, hitems, hbuilt⟩ := exists_items_of_constructObject hvalue
    have hfirst := hbuilt.get_eq_some hinterface (constructObject_of_isText hinterfaceText)
    have hsecond := hbuilt.get_eq_some hgateway (constructObject_of_isText hgatewayText)
    rw [readMapping_eq_ok_iff, Loaded.get_toYaml, Loaded.get_toYaml, hitems, hfirst, hsecond]
    refine ⟨yamlItems items, gatewayIp, address, rfl, ?_, rfl, hpattern, rfl, haddress, htext⟩
    rw [hasMappingKeys_yamlItems, hfirst, hsecond]
    exact ⟨hbuilt.forall_keys_iff.1 hkeys, rfl, rfl⟩
  · rintro ⟨hport, hmapping⟩
    obtain ⟨⟨text, hstr, hread⟩, hrange⟩ := listenerPort_eq_ok_iff.1 hport
    obtain ⟨yaml, gatewayIp, address, hyaml, hkeys, hinterface, hpattern, hgateway, haddress,
      htext⟩ := readMapping_eq_ok_iff.1 hmapping
    refine ⟨⟨item.1, text, hscalar, hstr, hread⟩, hrange, hpattern, ?_⟩
    rw [Loaded.get_toYaml, Option.map_eq_some_iff] at hinterface hgateway
    obtain ⟨loaded, hfirst, hloaded⟩ := hinterface
    obtain rfl := Loaded.toYaml_eq_string.1 hloaded
    obtain ⟨loaded, hsecond, hloaded⟩ := hgateway
    obtain rfl := Loaded.toYaml_eq_string.1 hloaded
    obtain ⟨key, value⟩ := item
    cases value with
    | atom atom => cases hfirst
    | collection => cases hfirst
    | dict items =>
        cases items with
        | nil => cases hfirst
        | cons head rest =>
            obtain ⟨pairs, hpairs, hbuilt⟩ := exists_pairs_of_dict hvalue
            obtain ⟨interface, hholds, hinterface⟩ := hbuilt.exists_holds hfirst
            obtain ⟨gateway, hholds', hgateway⟩ := hbuilt.exists_holds hsecond
            obtain rfl := Yaml.mapping.inj hyaml
            exact ⟨pairs, interface, gateway, gatewayIp, address, hpairs,
              hbuilt.forall_keys_iff.2 ((hasMappingKeys_yamlItems _).1 hkeys).1, hholds,
              (isText_iff hinterface).2 rfl, hholds', (isText_iff hgateway).2 rfl, haddress, htext⟩

/-! ## All listeners -/

/-- A port that was not there is added. -/
theorem nodup_ports_append {mappings : List (ℤ × InterfaceMapping)} {port : ℤ}
    (hnodup : (mappings.map Prod.fst).Nodup) (hfresh : port ∉ mappings.map Prod.fst)
    (mapping : InterfaceMapping) : ((mappings ++ [(port, mapping)]).map Prod.fst).Nodup := by
  rw [List.map_append, List.map_singleton, List.nodup_append_comm]
  exact List.nodup_cons.2 ⟨hfresh, hnodup⟩

/-- What the loop returns is an entry for each item. -/
theorem exists_entries_of_readListeners {mappings result : List (ℤ × InterfaceMapping)}
    {items : List (Atom O × Loaded O)} (hnodup : (mappings.map Prod.fst).Nodup)
    (h : library.readListeners mappings items = .ok result) :
    ∃ entries, result = mappings ++ entries ∧ List.Forall₂ library.Accepts items entries ∧
      (result.map Prod.fst).Nodup := by
  induction items generalizing mappings with
  | nil =>
      obtain rfl := Except.ok.inj h
      exact ⟨[], by simp, .nil, hnodup⟩
  | cons item rest ih =>
      obtain ⟨rawPort, rawMapping⟩ := item
      rw [readListeners] at h
      obtain ⟨port, hport, h⟩ := of_except_bind h
      split at h
      · cases h
      · rename_i hfresh
        obtain ⟨mapping, hmapping, h⟩ := of_except_bind h
        have hread : readMapping port rawMapping.toYaml = .ok mapping := by
          cases hraw : readMapping port rawMapping.toYaml with
          | error error => simp [hraw, Except.mapError] at hmapping
          | ok found => simpa [hraw, Except.mapError] using hmapping
        obtain ⟨entries, rfl, hentries, hall⟩ := ih (nodup_ports_append hnodup hfresh mapping) h
        exact ⟨(port, mapping) :: entries, by simp, .cons ⟨hport, hread⟩ hentries, hall⟩

/-- The loop gets as far as the items before a key that cannot be printed. -/
theorem readListeners_of_unprintable {mappings entries : List (ℤ × InterfaceMapping)}
    {before after : List (Atom O × Loaded O)} {item : Atom O × Loaded O}
    (hbefore : List.Forall₂ library.Accepts before entries)
    (hnodup : ((mappings ++ entries).map Prod.fst).Nodup) (hitem : library.str item.1 = none) :
    library.readListeners mappings (before ++ item :: after) = .error .valueError := by
  induction hbefore generalizing mappings with
  | nil =>
      obtain ⟨rawPort, rawMapping⟩ := item
      rw [List.nil_append, readListeners, listenerPort, hitem]
      rfl
  | @cons first entry before entries haccepts _ ih =>
      obtain ⟨rawPort, rawMapping⟩ := first
      obtain ⟨port, mapping⟩ := entry
      have hfresh : port ∉ mappings.map Prod.fst := by
        rw [List.map_append, List.nodup_append] at hnodup
        exact fun hmem => hnodup.2.2 port hmem port (by simp) rfl
      rw [List.cons_append, readListeners, haccepts.port]
      show (if port ∈ mappings.map Prod.fst then _ else _) = _
      rw [if_neg hfresh, haccepts.mapping]
      exact ih (by simpa using hnodup)

/-- What the loop raises is a `ConfigError`, or comes of a key that cannot be printed. -/
theorem readListeners_eq_error {mappings : List (ℤ × InterfaceMapping)}
    {items : List (Atom O × Loaded O)} {raised : Raised} (hnodup : (mappings.map Prod.fst).Nodup)
    (h : library.readListeners mappings items = .error raised) :
    (∃ error, raised = .configError error) ∨ ∃ before item after entries,
      items = before ++ item :: after ∧ List.Forall₂ library.Accepts before entries ∧
      ((mappings ++ entries).map Prod.fst).Nodup ∧ library.str item.1 = none := by
  induction items generalizing mappings with
  | nil => cases h
  | cons item rest ih =>
      obtain ⟨rawPort, rawMapping⟩ := item
      rw [readListeners] at h
      cases hport : library.listenerPort rawPort with
      | error found =>
          rw [hport] at h
          obtain rfl : found = raised := Except.error.inj h
          rcases listenerPort_eq_error hport with hconfig | hprint
          · exact .inl hconfig
          · exact .inr ⟨[], (rawPort, rawMapping), rest, [], rfl, .nil, by simpa using hnodup,
              hprint⟩
      | ok port =>
          rw [hport] at h
          change (if port ∈ mappings.map Prod.fst then _ else _) = _ at h
          split at h
          · exact .inl ⟨_, (Except.error.inj h).symm⟩
          · rename_i hfresh
            cases hread : readMapping port rawMapping.toYaml with
            | error error =>
                rw [hread] at h
                exact .inl ⟨_, (Except.error.inj h).symm⟩
            | ok mapping =>
                rw [hread] at h
                rcases ih (nodup_ports_append hnodup hfresh mapping) h with
                  hconfig | ⟨before, found, after, entries, rfl, hbefore, hall, hprint⟩
                · exact .inl hconfig
                · exact .inr ⟨(rawPort, rawMapping) :: before, found, after,
                    (port, mapping) :: entries, rfl, .cons ⟨hport, hread⟩ hbefore,
                    by simpa using hall, hprint⟩

/-- The entries of the pairs are the entries of their items. -/
theorem forall₂_isListed_iff {pairs : List (Node L × Node L)} {items : List (Atom O × Loaded O)}
    (h : List.Forall₂ (fun pair item => library.constructObject pair.1 = .ok (.atom item.1) ∧
      library.constructObject pair.2 = .ok item.2) pairs items)
    {entries : List (ℤ × InterfaceMapping)} :
    List.Forall₂ library.IsListed pairs entries ↔ List.Forall₂ library.Accepts items entries := by
  induction h generalizing entries with
  | nil => simp
  | cons hitem _ ih =>
      simp only [List.forall₂_cons_left_iff, ih, isListed_iff_accepts hitem.1 hitem.2]

/-! ## The document -/

/-- The `listeners` object is found as the dictionary that is built of it. -/
theorem HasListeners.exists_get {root : Node L} {document : Loaded O}
    {listeners : List (Node L × Node L)} (h : library.HasListeners root listeners)
    (hroot : library.constructObject root = .ok document) :
    ∃ items, document.get "listeners".toList = some (.dict items) ∧
      library.IsBuilt listeners items := by
  obtain ⟨pairs, rfl, hholds⟩ := h
  obtain ⟨documentItems, rfl, hbuilt⟩ := exists_items_of_constructObject hroot
  obtain ⟨keyNode, hmem, hkey⟩ := hholds
  obtain ⟨item, _, _, hvalue⟩ := exists_mem_left_of_forall₂ hbuilt.built.flip hmem
  obtain ⟨items, hitem, hlisteners⟩ := exists_items_of_constructObject hvalue
  exact ⟨items, hbuilt.get_eq_some ⟨keyNode, hmem, hkey⟩ (hitem ▸ hvalue), hlisteners⟩

/-- A dictionary of listeners that is not empty is built of a `listeners` object. -/
theorem exists_hasListeners_of_get {root : Node L} {document : Loaded O}
    {item : Atom O × Loaded O} {items : List (Atom O × Loaded O)}
    (hroot : library.constructObject root = .ok document)
    (hget : document.get "listeners".toList = some (.dict (item :: items))) :
    ∃ listeners, library.HasListeners root listeners ∧
      library.IsBuilt listeners (item :: items) := by
  cases document with
  | atom atom => cases hget
  | collection => cases hget
  | dict documentItems =>
      cases documentItems with
      | nil => cases hget
      | cons head rest =>
          obtain ⟨pairs, rfl, hbuilt⟩ := exists_pairs_of_dict hroot
          obtain ⟨node, hholds, hnode⟩ := hbuilt.exists_holds hget
          obtain ⟨listeners, rfl, hlisteners⟩ := exists_pairs_of_dict hnode
          exact ⟨listeners, ⟨pairs, rfl, hholds⟩, hlisteners⟩

/-- A document without listeners is a `ConfigError`, and with them the loop reads it. -/
theorem readDocument_cases (library : YamlLibrary L O) (document : Option (Loaded O)) :
    (∃ error, library.readDocument document = .error (.configError error)) ∨
      ∃ loaded item items, document = some loaded ∧
        loaded.get "listeners".toList = some (.dict (item :: items)) ∧
        library.readDocument document = library.readListeners [] (item :: items) := by
  cases document with
  | none => exact .inl ⟨_, rfl⟩
  | some loaded =>
      cases hget : loaded.get "listeners".toList with
      | none =>
          refine .inl ⟨.invalid .noListeners, ?_⟩
          rw [readDocument, Option.bind_some, hget]
      | some found =>
          cases found with
          | atom atom =>
              refine .inl ⟨.invalid .noListeners, ?_⟩
              rw [readDocument, Option.bind_some, hget]
          | collection =>
              refine .inl ⟨.invalid .noListeners, ?_⟩
              rw [readDocument, Option.bind_some, hget]
          | dict items =>
              cases items with
              | nil =>
                  refine .inl ⟨.invalid .noListener, ?_⟩
                  rw [readDocument, Option.bind_some, hget]
              | cons item rest =>
                  refine .inr ⟨loaded, item, rest, rfl, hget, ?_⟩
                  rw [readDocument, Option.bind_some, hget]

/-- Only a key that cannot be printed escapes. -/
theorem readDocument_eq_error {root : Node L} {document : Loaded O} {raised : Raised}
    (hroot : library.constructObject root = .ok document)
    (h : library.readDocument (some document) = .error raised) :
    (∃ error, raised = .configError error) ∨ library.HasUnprintablePort root := by
  rcases library.readDocument_cases (some document) with
    ⟨error, hread⟩ | ⟨loaded, item, items, hloaded, hget, hread⟩
  · exact .inl ⟨error, Except.error.inj (h.symm.trans hread)⟩
  · obtain rfl := Option.some.inj hloaded
    obtain ⟨listeners, hlisteners, hbuilt⟩ := exists_hasListeners_of_get hroot hget
    have hempty : (([] : List (ℤ × InterfaceMapping)).map Prod.fst).Nodup := List.nodup_nil
    rcases readListeners_eq_error hempty (hread.symm.trans h) with
      hconfig | ⟨before, key, after, entries, hitems, hbefore, hnodup, hprint⟩
    · exact .inl hconfig
    · obtain ⟨before', ⟨keyNode, valueNode⟩, after', rfl, hsplit, hkey, _⟩ :=
        exists_append_of_forall₂ (hitems ▸ hbuilt.built).flip
      exact .inr ⟨before', keyNode, valueNode, after', entries, key.1, hlisteners,
        (forall₂_isListed_iff hsplit.flip).2 hbefore, hnodup, scalar?_of_constructObject hkey,
          hprint⟩

/-- And it does escape. -/
theorem HasUnprintablePort.readDocument_eq {root : Node L} {document : Loaded O}
    (h : library.HasUnprintablePort root) (hroot : library.constructObject root = .ok document) :
    library.readDocument (some document) = .error .valueError := by
  obtain ⟨before, key, value, after, mappings, atom, hlisteners, hbefore, hnodup, hscalar,
    hprint⟩ := h
  obtain ⟨items, hget, hbuilt⟩ := hlisteners.exists_get hroot
  obtain ⟨before', item, after', rfl, hsplit, hkey, _⟩ := exists_append_of_forall₂ hbuilt.built
  have hatom : item.1 = atom :=
    Option.some.inj ((scalar?_of_constructObject hkey).symm.trans hscalar)
  have hread := @readListeners_of_unprintable _ _ library [] mappings before' after' item
    ((forall₂_isListed_iff hsplit).1 hbefore) hnodup (hatom ▸ hprint)
  rw [readDocument, Option.bind_some, hget, ← hread]
  cases before' <;> rfl

/-- What is returned is as it should be. -/
theorem readDocument_eq_ok {root : Node L} {document : Loaded O}
    {mappings : List (ℤ × InterfaceMapping)} (hroot : library.constructObject root = .ok document)
    (h : library.readDocument (some document) = .ok mappings) :
    (∃ listeners, library.HasListeners root listeners ∧
      List.Forall₂ library.IsListed listeners mappings) ∧ (mappings.map Prod.fst).Nodup := by
  rcases library.readDocument_cases (some document) with
    ⟨error, hread⟩ | ⟨loaded, item, items, hloaded, hget, hread⟩
  · rw [hread] at h
    cases h
  · obtain rfl := Option.some.inj hloaded
    obtain ⟨listeners, hlisteners, hbuilt⟩ := exists_hasListeners_of_get hroot hget
    have hempty : (([] : List (ℤ × InterfaceMapping)).map Prod.fst).Nodup := List.nodup_nil
    obtain ⟨entries, hentries, haccepts, hnodup⟩ :=
      exists_entries_of_readListeners hempty (hread.symm.trans h)
    obtain rfl : mappings = entries := hentries
    exact ⟨⟨listeners, hlisteners, (forall₂_isListed_iff hbuilt.built).2 haccepts⟩, hnodup⟩

/-- An entry of a listener is well formed. -/
theorem IsListed.wellFormed {pair : Node L × Node L} {entry : ℤ × InterfaceMapping}
    (h : library.IsListed pair entry) : 1024 ≤ entry.1 ∧ entry.1 ≤ 65535 ∧
      interfacePattern entry.2.interface = true ∧ (ipAddress entry.2.gatewayIp).isSome = true := by
  obtain ⟨_, _, _, _, address, _, _, _, _, _, _, haddress, htext⟩ := h.mapping
  refine ⟨h.range.1, h.range.2, h.pattern, ?_⟩
  rw [htext, ipAddress_str_of_ipAddress haddress]
  rfl

/-! ## Listeners whose keys are texts -/

/-- The loop of the headless listener, of keys that are texts. -/
theorem readListeners_of_texts {conversions : Conversions}
    (hread : conversions.readInt = library.readInt) {items : List (Atom O × Loaded O)}
    (htexts : ∀ item ∈ items, ∃ text, item.1 = .text text)
    (mappings : List (ℤ × InterfaceMapping)) :
    library.readListeners mappings items =
      (readMappings conversions mappings (yamlItems items)).mapError fun error =>
        .configError (.invalid error) := by
  induction items generalizing mappings with
  | nil => rfl
  | cons item rest ih =>
      obtain ⟨key, value⟩ := item
      obtain ⟨text, rfl⟩ := htexts _ List.mem_cons_self
      have hrest := fun mappings =>
        ih (fun item hitem => htexts item (List.mem_cons_of_mem _ hitem))
        mappings
      rw [readListeners, yamlItems, readMappings, listenerPort, Engine.listenerPort]
      simp only [str, Atom.toValue, Conversions.str, hread]
      cases library.readInt text with
      | none => rfl
      | some port =>
          simp only
          split
          · show (if _ then _ else _) = Except.mapError _ (if _ then _ else _)
            split
            · rfl
            · cases readMapping port value.toYaml with
              | error error => rfl
              | ok mapping => exact hrest _
          · rfl

/-- **The document of the headless listener** is the one that is built, where its ports are
texts. -/
theorem readDocument_of_texts {conversions : Conversions}
    (hread : conversions.readInt = library.readInt) {document : Loaded O}
    (htexts : ∀ items, document.get "listeners".toList = some (.dict items) →
      ∀ item ∈ items, ∃ text, item.1 = .text text) :
    library.readDocument (some document) =
      (Engine.loadMappings conversions document.toYaml).mapError fun error =>
        .configError (.invalid error) := by
  rw [readDocument, Option.bind_some, Engine.loadMappings, Loaded.get_toYaml]
  cases hget : document.get "listeners".toList with
  | none => rfl
  | some found =>
      cases found with
      | atom atom => rfl
      | collection => rfl
      | dict items =>
          cases items with
          | nil => rfl
          | cons item rest => exact readListeners_of_texts hread (htexts _ hget) []

/-! ## When the promise is kept -/

/-- An exception of `yaml.load` leaves as its `except` clause says. -/
theorem keepsPromise_iff_of_raised {file : Except Text Bytes} {raised : Raised}
    (h : library.loadDocument file = .error raised) :
    library.KeepsPromise file ↔ raised.isReported = true := by
  have hload : library.loadMappings file = .error raised.caught := by
    rw [loadMappings, h]
    rfl
  rw [KeepsPromise, hload, Raised.isReported_iff]

/-- A file without a document has no listeners. -/
theorem keepsPromise_of_empty {file : Except Text Bytes}
    (h : library.loadDocument file = .ok none) : library.KeepsPromise file := by
  have hload : library.loadMappings file = .error (.configError (.invalid .noListeners)) := by
    rw [loadMappings, h]
    rfl
  rw [KeepsPromise, hload]
  exact ⟨_, rfl⟩

/-- Of a document that is built, only a key that cannot be printed breaks the promise. -/
theorem keepsPromise_iff_of_document {file : Except Text Bytes} {root : Node L}
    {document : Loaded O} (hreads : library.Reads file root)
    (hroot : library.constructObject root = .ok document)
    (h : library.loadDocument file = .ok (some document)) :
    library.KeepsPromise file ↔ ¬ library.HasUnprintablePort root := by
  have hload : library.loadMappings file = library.readDocument (some document) := by
    rw [loadMappings, h]
    rfl
  rw [KeepsPromise, hload]
  cases hread : library.readDocument (some document) with
  | error raised =>
      constructor
      · rintro ⟨error, rfl⟩ hunprintable
        rw [hunprintable.readDocument_eq hroot] at hread
        cases hread
      · intro hprintable
        exact (readDocument_eq_error hroot hread).resolve_right hprintable
  | ok mappings =>
      obtain ⟨⟨listeners, hlisteners, hlisted⟩, hnodup⟩ := readDocument_eq_ok hroot hread
      constructor
      · intro _ hunprintable
        rw [hunprintable.readDocument_eq hroot] at hread
        cases hread
      · intro _
        refine ⟨⟨root, listeners, hreads, hlisteners, hlisted⟩, hnodup, fun entry hentry => ?_⟩
        obtain ⟨pair, _, hpair⟩ := exists_mem_left_of_forall₂ hlisted hentry
        exact hpair.wellFormed

/-- Of a node that is read, building decides what goes wrong first. -/
theorem keepsPromise_iff_of_composed {bytes : Bytes} {text : Text} {root : Node L}
    (hbytes : decodeUtf8 bytes = some text)
    (hcompose : library.compose (universalNewlines text) = .ok (some root)) :
    library.KeepsPromise (.ok bytes) ↔
      match library.firstProblem (stepsOfDocument root) with
      | some raised => raised.isReported = true
      | none => ¬ library.HasUnprintablePort root := by
  have hfirst := library.reports_constructDocument root
  cases hdocument : library.constructDocument root with
  | error raised =>
      have hload : library.loadDocument (.ok bytes) = .error raised := by
        simp only [loadDocument, hbytes, hcompose, hdocument, Except.map]
      rw [hdocument] at hfirst
      obtain hfirst : library.firstProblem (stepsOfDocument root) = some raised := hfirst
      rw [keepsPromise_iff_of_raised hload, hfirst]
  | ok document =>
      have hload : library.loadDocument (.ok bytes) = .ok (some document) := by
        simp only [loadDocument, hbytes, hcompose, hdocument, Except.map]
      rw [hdocument] at hfirst
      obtain hfirst : library.firstProblem (stepsOfDocument root) = none := hfirst
      obtain ⟨loaded, hroot, hrest⟩ := of_except_bind hdocument
      obtain ⟨_, _, hloaded⟩ := of_except_bind hrest
      obtain rfl : loaded = document := Except.ok.inj hloaded
      rw [hfirst, keepsPromise_iff_of_document ⟨bytes, text, rfl, hbytes, hcompose⟩ hroot hload]

end YamlLibrary

/-- **The mapping file.** Whatever is in the file, `load_mappings` raises `ConfigError` or returns
exactly the entries of all its listeners, if and only if what goes wrong first is something that it
reports. -/
theorem load_mappings_keeps_promise_iff (library : YamlLibrary L O) (file : Except Text Bytes) :
    library.KeepsPromise file ↔ library.IsReported file := by
  cases file with
  | error reason =>
      rw [YamlLibrary.keepsPromise_iff_of_raised rfl]
      exact ⟨fun _ => trivial, fun _ => rfl⟩
  | ok bytes =>
      rw [YamlLibrary.IsReported]
      cases hbytes : decodeUtf8 bytes with
      | none =>
          cases hearly : library.refusesEarly bytes with
          | none =>
              have hload : library.loadDocument (.ok bytes) = .error .unicodeDecodeError := by
                simp only [YamlLibrary.loadDocument, hbytes, hearly]
              rw [YamlLibrary.keepsPromise_iff_of_raised hload]
              rfl
          | some reason =>
              have hload : library.loadDocument (.ok bytes) = .error (.yamlError reason) := by
                simp only [YamlLibrary.loadDocument, hbytes, hearly]
              rw [YamlLibrary.keepsPromise_iff_of_raised hload]
              rfl
      | some text =>
          simp only
          cases hcompose : library.compose (universalNewlines text) with
          | error reason =>
              have hload : library.loadDocument (.ok bytes) = .error (.yamlError reason) := by
                simp only [YamlLibrary.loadDocument, hbytes, hcompose]
              simp only [YamlLibrary.keepsPromise_iff_of_raised hload, Raised.isReported]
          | ok node =>
              cases node with
              | none =>
                  have hload : library.loadDocument (.ok bytes) = .ok none := by
                    simp only [YamlLibrary.loadDocument, hbytes, hcompose]
                  exact ⟨fun _ => trivial, fun _ => YamlLibrary.keepsPromise_of_empty hload⟩
              | some root =>
                  exact YamlLibrary.keepsPromise_iff_of_composed hbytes hcompose

/-! ## A key that cannot be hashed -/

/-- PyYAML for two files: one whose only key is a sequence, and no text at all. -/
def sequenceKeyLibrary : YamlLibrary Text Empty where
  compose text :=
    if text = "? [a]\n: b\n".toList then
      .ok (some (.mapping [(.collection [.leaf "a".toList], .leaf "b".toList)]))
    else .ok none
  refusesEarly _ := none
  build text := .ok (.text text)
  same := nofun
  print := nofun
  readInt _ := none

/-- A key that is a sequence is a `TypeError`, and a byte that is no UTF-8 a
`UnicodeDecodeError`. -/
theorem load_mappings_sequence_key :
    sequenceKeyLibrary.loadMappings (.ok ("? [a]\n: b\n".toList.map fun c => UInt8.ofNat c.toNat)) =
        .error .typeError ∧
      sequenceKeyLibrary.loadMappings (.ok [0xff]) = .error .unicodeDecodeError ∧
      ¬ ∀ file, sequenceKeyLibrary.KeepsPromise file := by
  have hbyte : sequenceKeyLibrary.loadMappings (.ok [0xff]) = .error .unicodeDecodeError := by
    decide +kernel
  refine ⟨by decide +kernel, hbyte, fun hall => ?_⟩
  have hkept := hall (.ok [0xff])
  rw [YamlLibrary.KeepsPromise, hbyte] at hkept
  obtain ⟨error, herror⟩ := hkept
  cases herror

end Wolt.Engine
