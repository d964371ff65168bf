import MethodRoutes.Proofs.Json.Grammar

/-!
# The reader and the grammar

The reader takes exactly the texts that denote something, and gives what they denote. It looks no
further than it has to, so the blanks behind a value are still unread when it is done.

In one direction the proof is an induction on the derivation, with these blanks in the statement. In
the other one it is an induction on the depth, and for lists and objects on the steps of the reader:
the blanks on both sides of a part belong to it.

## Main definitions

* `Json.IsRead` — wherever a text stands, its value is read
* `Json.IsSound` — what is read denotes its value

## Main results

* `Json.readValue_of_denotes`, `Json.denotes_of_readValue` — the reader and the rules
* `Json.Denotes.unique` — a text denotes at most one value
* `Json.Value.parse_eq_ok_iff` — a whole text is read as what it denotes
-/

namespace MethodRoutes.Json

variable {s rest before blanks written : Bytes} {v : Value} {depth : Nat}

/-! ## What denotes a value is read -/

/-- Blanks before a value do not matter. -/
theorem readNode_append (inner : Option (Reader Value)) (h : IsBlank before) (s : Bytes) :
    readNode inner (before ++ s) = readNode inner s := by
  rw [readNode, skipBlanks_append h, readNode]

theorem exists_readNode (depth : Nat) : ∃ inner, readValue depth = readNode inner := by
  cases depth
  all_goals exact ⟨_, rfl⟩

theorem readValue_append (depth : Nat) (h : IsBlank before) (s : Bytes) :
    readValue depth (before ++ s) = readValue depth s := by
  obtain ⟨inner, hinner⟩ := exists_readNode depth
  rw [hinner]
  exact readNode_append inner h s

/-- Wherever the text stands, the value is read, up to blanks. -/
def IsRead (depth : Nat) (written : Bytes) (v : Value) : Prop :=
  ∀ rest, Stops rest →
    ∃ blanks, IsBlank blanks ∧ readValue depth (written ++ rest) = .ok (v, blanks ++ rest)

theorem IsRead.of_readNode
    (h : ∀ inner rest, Stops rest → readNode inner (written ++ rest) = .ok (v, rest)) :
    IsRead depth written v := by
  intro rest hrest
  obtain ⟨inner, hinner⟩ := exists_readNode depth
  exact ⟨[], isBlank_nil, by rw [hinner, h inner rest hrest, List.nil_append]⟩

theorem isRead_number {n : Number} (h : SpellsNumber written n) :
    IsRead depth written (.number n) :=
  .of_readNode fun inner _ hrest => readNode_of_spellsNumber inner h hrest

theorem isRead_string {text : String} (h : Spells written (Bytes.ofText text)) :
    IsRead depth (0x22 :: (written ++ [0x22])) (.string text) := by
  apply IsRead.of_readNode
  intro inner rest _
  have hnode : ∀ t, readNode inner (0x22 :: t) = mapRead Value.string (readString t) :=
    fun _ => rfl
  rw [List.cons_append, List.append_assoc, hnode, List.singleton_append,
    readString_eq_ok_iff.mpr ⟨written, rfl, h⟩]
  rfl

/-! ### Lists -/

section Lists

variable {fuel : Nat} {first : Bool} {item start tail : Bytes} {vs : List Value}
  {items : List (Bytes × Value)}

/-- An item is read with the blanks before it, and those behind it are left to the next step. -/
theorem readItemsFrom_item (hdenotes : Denotes depth item v) (hread : IsRead depth item v)
    (hnext : ∀ before s, item = before ++ s → IsBlank before → Starts s →
      nextItem first start = .ok (true, s ++ tail)) (htail : Stops tail)
    (hmore : ∀ blanks, IsBlank blanks →
      readItemsFrom (readValue depth) false fuel (blanks ++ tail) = .ok (vs, rest)) :
    readItemsFrom (readValue depth) first (fuel + 1) start = .ok (v :: vs, rest) := by
  obtain ⟨before, s, rfl, hbefore, hs⟩ := hdenotes.exists_starts
  obtain ⟨blanks, hblanks, hvalue⟩ := hread tail htail
  rw [List.append_assoc, readValue_append depth hbefore] at hvalue
  exact readItemsFrom_eq_ok_iff.mpr
    (.inr ⟨_, _, _, _, hnext before s rfl hbefore hs, hvalue, hmore blanks hblanks, rfl⟩)

/-- The items of a list behind the first one. -/
theorem readItemsFrom_of_denotes (hdenotes : ∀ p ∈ items, Denotes depth p.1 p.2)
    (hread : ∀ p ∈ items, IsRead depth p.1 p.2) (hblanks : IsBlank blanks)
    (hfuel : items.length < fuel) :
    readItemsFrom (readValue depth) false fuel
      (blanks ++ (commaBefore (items.map Prod.fst) ++ 0x5D :: rest)) =
        .ok (items.map Prod.snd, rest) := by
  -- Each item leaves the blanks behind it to the next one, so these are generalized.
  induction items generalizing blanks fuel with
  | nil =>
    obtain ⟨fuel, rfl⟩ := Nat.exists_eq_add_one_of_ne_zero (Nat.ne_zero_of_lt hfuel)
    exact readItemsFrom_eq_ok_iff.mpr (.inl ⟨_, nextItem_close hblanks false rest, rfl, rfl⟩)
  | cons p items ih =>
    obtain ⟨fuel, rfl⟩ := Nat.exists_eq_add_one_of_ne_zero (Nat.ne_zero_of_lt hfuel)
    rw [List.map_cons, commaBefore_cons, List.cons_append, List.append_assoc]
    refine readItemsFrom_item (hdenotes p List.mem_cons_self) (hread p List.mem_cons_self) ?_
      (stops_commaBefore (items.map Prod.fst) (.inl rfl) rest) fun blanks hblanks => ?_
    · intro before s hp hbefore hs
      rw [hp, List.append_assoc]
      exact nextItem_comma hblanks hbefore (hs.append _)
    · exact ih (fun q hq => hdenotes q (List.mem_cons_of_mem p hq))
        (fun q hq => hread q (List.mem_cons_of_mem p hq)) hblanks (Nat.lt_of_succ_lt_succ hfuel)

/-- A bracket opens a list, if there is a level left. -/
theorem readValue_bracket (depth : Nat) (s : Bytes) :
    readValue (depth + 1) (0x5B :: s) = mapRead Value.array (readItems (readValue depth) s) := rfl

theorem isRead_emptyList (hblanks : IsBlank blanks) :
    IsRead (depth + 1) (0x5B :: (blanks ++ [0x5D])) (.array []) := by
  intro rest _
  have hread : readItems (readValue depth) (blanks ++ 0x5D :: rest) = .ok ([], rest) :=
    readItemsFrom_eq_ok_iff.mpr (.inl ⟨_, nextItem_close hblanks true rest, rfl, rfl⟩)
  refine ⟨[], isBlank_nil, ?_⟩
  rw [List.cons_append, List.append_assoc, readValue_bracket, List.singleton_append, hread]
  rfl

theorem isRead_list (nonempty : items ≠ []) (hdenotes : ∀ p ∈ items, Denotes depth p.1 p.2)
    (hread : ∀ p ∈ items, IsRead depth p.1 p.2) :
    IsRead (depth + 1) (0x5B :: (separated (items.map Prod.fst) ++ [0x5D]))
      (.array (items.map Prod.snd)) := by
  intro rest _
  obtain ⟨p, items, rfl⟩ := List.exists_cons_of_ne_nil nonempty
  have hitems : readItems (readValue depth)
      (p.1 ++ (commaBefore (items.map Prod.fst) ++ 0x5D :: rest)) =
        .ok (p.2 :: items.map Prod.snd, rest) := by
    refine readItemsFrom_item (hdenotes p List.mem_cons_self) (hread p List.mem_cons_self) ?_
      (stops_commaBefore (items.map Prod.fst) (.inl rfl) rest) fun blanks hblanks => ?_
    · intro before s hp hbefore hs
      rw [hp, List.append_assoc]
      exact nextItem_first hbefore (hs.append _)
    · -- The fuel is the length of the text, which has a comma for each further item.
      refine readItemsFrom_of_denotes (fun q hq => hdenotes q (List.mem_cons_of_mem p hq))
        (fun q hq => hread q (List.mem_cons_of_mem p hq)) hblanks ?_
      have hlength := length_le_length_commaBefore (items.map Prod.fst)
      simp only [List.length_map, List.length_append, List.length_cons] at hlength ⊢
      omega
  refine ⟨[], isBlank_nil, ?_⟩
  rw [List.map_cons, separated_cons, List.cons_append, List.append_assoc, List.append_assoc,
    readValue_bracket, List.singleton_append, hitems]
  rfl

end Lists

/-! ### Objects -/

section Objects

variable {fuel : Nat} {first : Bool} {start tail : Bytes} {fields : List (String × Value)}
  {m : Member} {members : List Member}

/-- A field is read with the blanks before it, and those behind it are left to the next step. -/
theorem readFieldsFrom_member (hkey : IsStringDocument m.keyText m.key)
    (hread : IsRead depth m.valueText m.value)
    (hnext : ∀ before s, m.keyText = before ++ 0x22 :: s → IsBlank before →
      nextKey first start = .ok (true, s ++ 0x3A :: (m.valueText ++ tail))) (htail : Stops tail)
    (hmore : ∀ blanks, IsBlank blanks →
      readFieldsFrom (readValue depth) false fuel (blanks ++ tail) = .ok (fields, rest)) :
    readFieldsFrom (readValue depth) first (fuel + 1) start =
      .ok ((m.key, m.value) :: fields, rest) := by
  obtain ⟨before, written, after, htext, hbefore, hspells, hafter⟩ := hkey
  obtain ⟨blanks, hblanks, hvalue⟩ := hread tail htail
  have hstring := hnext before _ htext hbefore
  rw [List.append_assoc, List.cons_append] at hstring
  exact readFieldsFrom_eq_ok_iff.mpr (.inr ⟨_, _, _, _, _, _, _, hstring,
    readString_eq_ok_iff.mpr ⟨written, rfl, hspells⟩, readColon_eq_ok_iff.mpr ⟨after, hafter, rfl⟩,
    hvalue, hmore blanks hblanks, rfl⟩)

/-- The fields of an object behind the first one. -/
theorem readFieldsFrom_of_denotes (hkeys : ∀ m ∈ members, IsStringDocument m.keyText m.key)
    (hread : ∀ m ∈ members, IsRead depth m.valueText m.value) (hblanks : IsBlank blanks)
    (hfuel : members.length < fuel) :
    readFieldsFrom (readValue depth) false fuel
      (blanks ++ (commaBefore (members.map Member.text) ++ 0x7D :: rest)) =
        .ok (members.map fun m => (m.key, m.value), rest) := by
  induction members generalizing blanks fuel with
  | nil =>
    obtain ⟨fuel, rfl⟩ := Nat.exists_eq_add_one_of_ne_zero (Nat.ne_zero_of_lt hfuel)
    exact readFieldsFrom_eq_ok_iff.mpr (.inl ⟨_, nextKey_close hblanks false rest, rfl, rfl⟩)
  | cons m members ih =>
    obtain ⟨fuel, rfl⟩ := Nat.exists_eq_add_one_of_ne_zero (Nat.ne_zero_of_lt hfuel)
    rw [List.map_cons, commaBefore_cons, List.cons_append, List.append_assoc, Member.text,
      List.append_assoc, List.cons_append]
    refine readFieldsFrom_member (hkeys m List.mem_cons_self) (hread m List.mem_cons_self) ?_
      (stops_commaBefore (members.map Member.text) (.inr rfl) rest) fun blanks hblanks => ?_
    · intro before s hm hbefore
      rw [hm, List.append_assoc]
      exact nextKey_comma hblanks hbefore _
    · exact ih (fun m' hm' => hkeys m' (List.mem_cons_of_mem m hm'))
        (fun m' hm' => hread m' (List.mem_cons_of_mem m hm')) hblanks
        (Nat.lt_of_succ_lt_succ hfuel)

/-- A brace opens an object, if there is a level left. -/
theorem readValue_brace (depth : Nat) (s : Bytes) :
    readValue (depth + 1) (0x7B :: s) = mapRead Value.ofFields (readFields (readValue depth) s) :=
  rfl

theorem isRead_emptyObject (hblanks : IsBlank blanks) :
    IsRead (depth + 1) (0x7B :: (blanks ++ [0x7D])) (.object []) := by
  intro rest _
  have hread : readFields (readValue depth) (blanks ++ 0x7D :: rest) = .ok ([], rest) :=
    readFieldsFrom_eq_ok_iff.mpr (.inl ⟨_, nextKey_close hblanks true rest, rfl, rfl⟩)
  refine ⟨[], isBlank_nil, ?_⟩
  rw [List.cons_append, List.append_assoc, readValue_brace, List.singleton_append, hread]
  rfl

theorem isRead_object {fields : List (String × Value)} (nonempty : members ≠ [])
    (hkeys : ∀ m ∈ members, IsStringDocument m.keyText m.key)
    (hread : ∀ m ∈ members, IsRead depth m.valueText m.value)
    (hmerges : Merges (members.map fun m => (m.key, m.value)) fields) :
    IsRead (depth + 1) (0x7B :: (separated (members.map Member.text) ++ [0x7D]))
      (.object fields) := by
  intro rest _
  rw [← Value.ofFields_eq_object_iff.mpr hmerges]
  obtain ⟨m, members, rfl⟩ := List.exists_cons_of_ne_nil nonempty
  have hfields : readFields (readValue depth)
      (m.text ++ (commaBefore (members.map Member.text) ++ 0x7D :: rest)) =
        .ok ((m.key, m.value) :: members.map fun m => (m.key, m.value), rest) := by
    refine readFieldsFrom_member (hkeys m List.mem_cons_self) (hread m List.mem_cons_self) ?_
      (stops_commaBefore (members.map Member.text) (.inr rfl) rest) fun blanks hblanks => ?_
    · intro before s hm hbefore
      rw [Member.text, hm, List.append_assoc, List.append_assoc]
      exact nextKey_first hbefore _
    · refine readFieldsFrom_of_denotes (fun m' hm' => hkeys m' (List.mem_cons_of_mem m hm'))
        (fun m' hm' => hread m' (List.mem_cons_of_mem m hm')) hblanks ?_
      have hlength := length_le_length_commaBefore (members.map Member.text)
      simp only [List.length_map, List.length_append, List.length_cons] at hlength ⊢
      omega
  refine ⟨[], isBlank_nil, ?_⟩
  rw [List.map_cons, separated_cons, List.cons_append, List.append_assoc, List.append_assoc,
    readValue_brace, List.singleton_append, hfields]
  rfl

end Objects

/-- A value is read from a text that denotes it, wherever the text stands. -/
theorem readValue_of_denotes (h : Denotes depth written v) : IsRead depth written v := by
  induction h with
  | null | yes | no => exact .of_readNode fun _ _ _ => rfl
  | number h => exact isRead_number h
  | string h => exact isRead_string h
  | emptyList h => exact isRead_emptyList h
  | list nonempty denotes ih => exact isRead_list nonempty denotes ih
  | emptyObject h => exact isRead_emptyObject h
  | object nonempty keys _ merges ih => exact isRead_object nonempty keys ih merges
  | @padded _ before written after _ hbefore hafter _ ih =>
    intro rest hrest
    obtain ⟨blanks, hblanks, hvalue⟩ := ih (after ++ rest) (hafter.stops_append hrest)
    refine ⟨blanks ++ after, hblanks.append hafter, ?_⟩
    rw [List.append_assoc, List.append_assoc, readValue_append _ hbefore, hvalue,
      List.append_assoc]

/-- A text denotes at most one value. -/
theorem Denotes.unique {w : Value} (h : Denotes depth written v) (h' : Denotes depth written w) :
    v = w := by
  obtain ⟨_, -, hv⟩ := readValue_of_denotes h [] stops_nil
  obtain ⟨_, -, hw⟩ := readValue_of_denotes h' [] stops_nil
  rw [hv] at hw
  exact (Prod.mk.inj (Except.ok.inj hw)).1

/-! ## What is read denotes its value -/

section Sound

/-- What the reader takes for a value denotes it. -/
def IsSound (depth : Nat) : Prop :=
  ∀ s v rest, readValue depth s = .ok (v, rest) →
    ∃ written, s = written ++ rest ∧ Denotes depth written v

variable {fuel : Nat} {items : List Value} {fields : List (String × Value)}

theorem exists_items_of_readItemsFrom (hsound : IsSound depth)
    (h : readItemsFrom (readValue depth) false fuel s = .ok (items, rest)) :
    ∃ (blanks : Bytes) (parts : List (Bytes × Value)), IsBlank blanks ∧
      (∀ p ∈ parts, Denotes depth p.1 p.2) ∧ parts.map Prod.snd = items ∧
      s = blanks ++ (commaBefore (parts.map Prod.fst) ++ 0x5D :: rest) := by
  induction fuel generalizing s items with
  | zero => cases h
  | succ fuel ih =>
    rcases readItemsFrom_eq_ok_iff.mp h with ⟨t, hnext, rfl, rfl⟩ |
      ⟨t, v, u, vs, hnext, hitem, hmore, rfl⟩
    · rcases cases_of_nextItem hnext with ⟨-, blanks, u, hblanks, rfl, rfl⟩ | ⟨hmore, -⟩ |
        ⟨hmore, -⟩
      · exact ⟨blanks, [], hblanks, nofun, rfl, rfl⟩
      · cases hmore
      · cases hmore
    · rcases cases_of_nextItem hnext with ⟨hmore, -⟩ | ⟨-, hfirst, -⟩ |
        ⟨-, -, blanks, before, hblanks, hbefore, rfl⟩
      · cases hmore
      · cases hfirst
      · -- The blanks on both sides of the item belong to it.
        obtain ⟨written, rfl, hdenotes⟩ := hsound _ _ _ hitem
        obtain ⟨after, parts, hafter, hparts, rfl, rfl⟩ := ih hmore
        refine ⟨blanks, (before ++ (written ++ after), v) :: parts, hblanks, ?_, rfl, ?_⟩
        · exact List.forall_mem_cons.mpr ⟨.padded hbefore hafter hdenotes, hparts⟩
        · simp only [List.map_cons, commaBefore_cons, List.cons_append, List.append_assoc]

/-- A list that has been read from behind its opening bracket. -/
theorem denotes_of_readItems (hsound : IsSound depth)
    (h : readItems (readValue depth) s = .ok (items, rest)) :
    ∃ written, s = written ++ 0x5D :: rest ∧
      Denotes (depth + 1) (0x5B :: (written ++ [0x5D])) (.array items) := by
  rcases readItemsFrom_eq_ok_iff.mp h with ⟨t, hnext, rfl, rfl⟩ |
    ⟨t, v, u, vs, hnext, hitem, hmore, rfl⟩
  · rcases cases_of_nextItem hnext with ⟨-, blanks, u, hblanks, rfl, rfl⟩ | ⟨hmore, -⟩ | ⟨hmore, -⟩
    · exact ⟨blanks, rfl, .emptyList hblanks⟩
    · cases hmore
    · cases hmore
  · rcases cases_of_nextItem hnext with ⟨hmore, -⟩ | ⟨-, -, before, hbefore, rfl⟩ | ⟨-, hfirst, -⟩
    · cases hmore
    · obtain ⟨written, rfl, hdenotes⟩ := hsound _ _ _ hitem
      obtain ⟨after, parts, hafter, hparts, rfl, rfl⟩ := exists_items_of_readItemsFrom hsound hmore
      have hlist := @Denotes.list depth ((before ++ (written ++ after), v) :: parts)
        (List.cons_ne_nil _ _)
        (List.forall_mem_cons.mpr ⟨.padded hbefore hafter hdenotes, hparts⟩)
      refine ⟨_, ?_, hlist⟩
      simp only [List.map_cons, separated_cons, List.append_assoc]
    · cases hfirst

theorem exists_members_of_readFieldsFrom (hsound : IsSound depth)
    (h : readFieldsFrom (readValue depth) false fuel s = .ok (fields, rest)) :
    ∃ (blanks : Bytes) (members : List Member), IsBlank blanks ∧
      (∀ m ∈ members, IsStringDocument m.keyText m.key) ∧
      (∀ m ∈ members, Denotes depth m.valueText m.value) ∧
      (members.map fun m => (m.key, m.value)) = fields ∧
      s = blanks ++ (commaBefore (members.map Member.text) ++ 0x7D :: rest) := by
  induction fuel generalizing s fields with
  | zero => cases h
  | succ fuel ih =>
    rcases readFieldsFrom_eq_ok_iff.mp h with ⟨t, hnext, rfl, rfl⟩ |
      ⟨t, key, u, w, v, x, fs, hnext, hkey, hcolon, hvalue, hmore, rfl⟩
    · rcases cases_of_nextKey hnext with ⟨-, blanks, u, hblanks, rfl, rfl⟩ | ⟨hmore, -⟩ |
        ⟨hmore, -⟩
      · exact ⟨blanks, [], hblanks, nofun, nofun, rfl, rfl⟩
      · cases hmore
      · cases hmore
    · rcases cases_of_nextKey hnext with ⟨hmore, -⟩ | ⟨-, hfirst, -⟩ |
        ⟨-, -, blanks, before, hblanks, hbefore, rfl⟩
      · cases hmore
      · cases hfirst
      · obtain ⟨spelled, rfl, hspells⟩ := readString_eq_ok_iff.mp hkey
        obtain ⟨behind, hbehind, rfl⟩ := readColon_eq_ok_iff.mp hcolon
        obtain ⟨written, rfl, hdenotes⟩ := hsound _ _ _ hvalue
        obtain ⟨after, members, hafter, hkeys, hmembers, rfl, rfl⟩ := ih hmore
        have hpadded := Denotes.padded isBlank_nil hafter hdenotes
        have hkey : IsStringDocument (before ++ 0x22 :: (spelled ++ 0x22 :: behind)) key :=
          ⟨before, spelled, behind, rfl, hbefore, hspells, hbehind⟩
        refine ⟨blanks, ⟨_, key, _, v⟩ :: members, hblanks,
          List.forall_mem_cons.mpr ⟨hkey, hkeys⟩, List.forall_mem_cons.mpr ⟨hpadded, hmembers⟩,
          rfl, ?_⟩
        simp only [List.map_cons, commaBefore_cons, Member.text, List.cons_append,
          List.append_assoc, List.nil_append]

/-- An object that has been read from behind its opening brace. -/
theorem denotes_of_readFields {merged : List (String × Value)} (hsound : IsSound depth)
    (h : readFields (readValue depth) s = .ok (fields, rest)) (hmerges : Merges fields merged) :
    ∃ written, s = written ++ 0x7D :: rest ∧
      Denotes (depth + 1) (0x7B :: (written ++ [0x7D])) (.object merged) := by
  rcases readFieldsFrom_eq_ok_iff.mp h with ⟨t, hnext, rfl, rfl⟩ |
    ⟨t, key, u, w, v, x, fs, hnext, hkey, hcolon, hvalue, hmore, rfl⟩
  · rcases cases_of_nextKey hnext with ⟨-, blanks, u, hblanks, rfl, rfl⟩ | ⟨hmore, -⟩ | ⟨hmore, -⟩
    · obtain rfl := hmerges.unique merges_nil
      exact ⟨blanks, rfl, .emptyObject hblanks⟩
    · cases hmore
    · cases hmore
  · rcases cases_of_nextKey hnext with ⟨hmore, -⟩ | ⟨-, -, before, hbefore, rfl⟩ | ⟨-, hfirst, -⟩
    · cases hmore
    · obtain ⟨spelled, rfl, hspells⟩ := readString_eq_ok_iff.mp hkey
      obtain ⟨behind, hbehind, rfl⟩ := readColon_eq_ok_iff.mp hcolon
      obtain ⟨written, rfl, hdenotes⟩ := hsound _ _ _ hvalue
      obtain ⟨after, members, hafter, hkeys, hmembers, rfl, rfl⟩ :=
        exists_members_of_readFieldsFrom hsound hmore
      have hpadded := Denotes.padded isBlank_nil hafter hdenotes
      have hkey : IsStringDocument (before ++ 0x22 :: (spelled ++ 0x22 :: behind)) key :=
        ⟨before, spelled, behind, rfl, hbefore, hspells, hbehind⟩
      have hobject := @Denotes.object depth (⟨_, key, _, v⟩ :: members) merged
        (List.cons_ne_nil _ _) (List.forall_mem_cons.mpr ⟨hkey, hkeys⟩)
        (List.forall_mem_cons.mpr ⟨hpadded, hmembers⟩) hmerges
      refine ⟨_, ?_, hobject⟩
      simp only [List.map_cons, separated_cons, Member.text, List.cons_append, List.append_assoc,
        List.nil_append]
    · cases hfirst

/-- What the first byte of a value decides, and what the reader makes of it. -/
theorem denotes_of_readNode {inner : Option (Reader Value)}
    (hinner : ∀ read ∈ inner, ∃ d, depth = d + 1 ∧ read = readValue d ∧ IsSound d)
    (h : readNode inner s = .ok (v, rest)) :
    ∃ written, s = written ++ rest ∧ Denotes depth written v := by
  rw [readNode] at h
  split at h
  · cases h
  next b t hskip =>
  obtain ⟨before, rfl, hbefore⟩ := exists_blanks_of_skipBlanks hskip
  -- The blanks before the value belong to it.
  suffices hvalue : ∃ written, b :: t = written ++ rest ∧ Denotes depth written v by
    obtain ⟨written, hs, hdenotes⟩ := hvalue
    refine ⟨before ++ (written ++ []), ?_, .padded hbefore isBlank_nil hdenotes⟩
    rw [hs, List.append_nil, List.append_assoc]
  split at h
  · next hb =>
    obtain ⟨r, hword, hv⟩ := map_eq_ok_iff.mp h
    cases hv
    exact ⟨_, by rw [hb, readWord_eq_ok_iff.mp hword]; rfl, .null⟩
  split at h
  · next hb =>
    obtain ⟨r, hword, hv⟩ := map_eq_ok_iff.mp h
    cases hv
    exact ⟨_, by rw [hb, readWord_eq_ok_iff.mp hword]; rfl, .yes⟩
  split at h
  · next hb =>
    obtain ⟨r, hword, hv⟩ := map_eq_ok_iff.mp h
    cases hv
    exact ⟨_, by rw [hb, readWord_eq_ok_iff.mp hword]; rfl, .no⟩
  split at h
  · next hb =>
    obtain ⟨n, hread, rfl⟩ := mapRead_eq_ok_iff.mp h
    obtain ⟨written, rfl, hspells⟩ := spells_of_readNumber hread
    exact ⟨0x2D :: written, by rw [hb]; rfl, .number (.negative hspells)⟩
  split at h
  · obtain ⟨n, hread, rfl⟩ := mapRead_eq_ok_iff.mp h
    obtain ⟨written, hs, hspells⟩ := spells_of_readNumber hread
    exact ⟨written, hs, .number (.positive hspells)⟩
  split at h
  · next hb =>
    obtain ⟨text, hread, rfl⟩ := mapRead_eq_ok_iff.mp h
    obtain ⟨written, rfl, hspells⟩ := readString_eq_ok_iff.mp hread
    exact ⟨0x22 :: (written ++ [0x22]), by simp [hb], .string hspells⟩
  split at h
  · next hb =>
    split at h
    · next read =>
      obtain ⟨d, rfl, rfl, hsound⟩ := hinner read rfl
      obtain ⟨items, hread, rfl⟩ := mapRead_eq_ok_iff.mp h
      obtain ⟨written, rfl, hdenotes⟩ := denotes_of_readItems hsound hread
      exact ⟨0x5B :: (written ++ [0x5D]), by simp [hb], hdenotes⟩
    · cases h
  split at h
  · next hb =>
    split at h
    · next read =>
      obtain ⟨d, rfl, rfl, hsound⟩ := hinner read rfl
      obtain ⟨fields, hread, rfl⟩ := mapRead_eq_ok_iff.mp h
      obtain ⟨written, rfl, hdenotes⟩ := denotes_of_readFields hsound hread (merges_foldl fields)
      exact ⟨0x7B :: (written ++ [0x7D]), by simp [hb], hdenotes⟩
    · cases h
  · cases h

/-- What has been read as a value denotes it. -/
theorem denotes_of_readValue (depth : Nat) : IsSound depth := by
  induction depth with
  | zero =>
    intro s v rest h
    refine denotes_of_readNode (fun read hread => ?_) h
    cases hread
  | succ depth ih =>
    intro s v rest h
    refine denotes_of_readNode (fun read hread => ?_) h
    cases hread
    exact ⟨depth, rfl, rfl, ih⟩

end Sound

/-- A whole text is read exactly if it denotes a value, and as that value. -/
theorem Value.parse_eq_ok_iff {input : Bytes} :
    parse input = .ok v ↔ Denotes 127 input v := by
  rw [parse, Format.decode, Format.any]
  dsimp only [nestingLimit]
  constructor
  · intro h
    split at h
    · cases h
    · next v rest hread =>
      split at h
      · next hblank =>
        cases h
        obtain ⟨written, rfl, hdenotes⟩ := denotes_of_readValue _ _ _ _ hread
        exact .padded isBlank_nil (skipBlanks_eq_nil_iff.mp hblank) hdenotes
      · cases h
  · intro h
    obtain ⟨blanks, hblanks, hread⟩ := readValue_of_denotes h [] stops_nil
    rw [List.append_nil, List.append_nil] at hread
    rw [hread]
    dsimp only
    rw [skipBlanks_eq_nil_iff.mpr hblanks]

end MethodRoutes.Json
