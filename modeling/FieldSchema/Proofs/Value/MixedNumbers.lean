import FieldSchema.Proofs.Number.Format

/-!
# Equality among Both Kinds of Number

When it does not matter which of two maps is asked for equality.

The test of two maps asks whether the entries of the first are found in the
second. It is symmetric if keys that equal one key equal each other, and with
whole numbers beside doubles they need not: two whole numbers that round to
one double both find it, while the double leaves one of them over. Then the
first map equals the second and the second does not equal the first.

Nothing else can make a difference, at any depth. If equality of the numbers
that occur is an equivalence, then so is that of the values made of them, by
the same induction as without doubles. If it is not, some double equals two
of the whole numbers, and two maps with these as keys tell the sides apart. So
for every set of numbers the condition is exact.

## Main definitions

* `Value.MadeOf`: A value that was made by its own operations out of numbers of a set.
* `Value.Layer`: A number of a set, or a well-formed value that is no number.

## Theorems

* `Value.madeOf_equivalenceOn`: Equality of values is an equivalence if that of their numbers is.
* `Mapping.same_sides`: Two whole numbers that one double equals tell the sides apart.
* `Mapping.same_comm_iff_apart`: The sides never differ exactly if no double equals two whole
  numbers.
-/

namespace FieldSchema

namespace Value

/-- A value made of numbers of a set, whose maps and hosts, at every depth, were made by their own
    operations; the operations of a host can be any. -/
inductive MadeOf (N : Number → Prop) : Value → Prop where
  | nil : MadeOf N .nil
  | string (text : String) : MadeOf N (.string text)
  | atom (name : String) : MadeOf N (.atom name)
  | number (n : Number) (h : N n) : MadeOf N (.number n)
  | boolean (b : Bool) : MadeOf N (.boolean b)
  | callable (name : String) : MadeOf N (.callable name)
  | list (items : List Value) (h : ∀ v ∈ items, MadeOf N v) : MadeOf N (.list items)
  | map (entries : List (Value × Value)) (hkeys : ∀ entry ∈ entries, MadeOf N entry.1)
      (hvalues : ∀ entry ∈ entries, MadeOf N entry.2) : MadeOf N (.map (.ofList entries))
  /-- The store can have been created before the first write and been left empty. -/
  | nested (operations : List (String × Operation)) (store : Option (List (String × Value)))
      (hstore : store.getD [] = []) (writes : List (String × Value))
      (h : ∀ slot ∈ writes, MadeOf N slot.2) :
      MadeOf N (.nested (Host.writeAll writes ⟨operations, store⟩))

/-- A number of a set, or a well-formed value that is no number and is made of values of a set. -/
inductive Layer (N : Number → Prop) (S : Value → Prop) : Value → Prop where
  | number (n : Number) (h : N n) : Layer N S (.number n)
  | other (v : Value) (hkind : ∀ n, v ≠ .number n) (h : v.Over S) : Layer N S v

variable {N : Number → Prop} {S : Value → Prop}

theorem MadeOf.layer (v : Value) (h : v.MadeOf N) : v.Layer N (MadeOf N) := by
  cases h with
  | number n h => exact .number n h
  | nil => exact .other _ nofun (.simple _ trivial)
  | string text => exact .other _ nofun (.simple _ trivial)
  | atom name => exact .other _ nofun (.simple _ trivial)
  | boolean b => exact .other _ nofun (.simple _ trivial)
  | callable name => exact .other _ nofun (.simple _ trivial)
  | list items h => exact .other _ nofun (.list items h)
  | map entries hkeys hvalues =>
      exact .other _ nofun (.map _ (Mapping.ofList_over (MadeOf N) entries hkeys hvalues))
  | nested operations store hstore writes h =>
      have hempty := Host.unwritten_over (MadeOf N) operations store hstore
      exact .other _ nofun (.nested _ (Host.writeAll_over (MadeOf N) writes _ hempty h))

theorem MadeOf.layer_smaller (v : Value) (h : v.MadeOf N) (n : Nat) (hn : sizeOf v < n + 1) :
    v.Layer N fun w => w.MadeOf N ∧ sizeOf w < n := by
  cases MadeOf.layer v h with
  | number k hk => exact .number k hk
  | other _ hkind hover => exact .other v hkind (over_smaller v hover n hn)

/-- What equals a number is a number. -/
theorem exists_of_same_number (n : Number) (v : Value) (h : SameValue v (.number n)) :
    ∃ k, v = .number k := by
  cases v with
  | number k => exact ⟨k, rfl⟩
  | _ => exact Bool.noConfusion h

theorem exists_of_number_same (n : Number) (v : Value) (h : SameValue (.number n) v) :
    ∃ k, v = .number k := by
  cases v with
  | number k => exact ⟨k, rfl⟩
  | _ => exact Bool.noConfusion h

/-- Equality of values is an equivalence if that of their numbers and of their parts is. -/
theorem layer_equivalenceOn (hN : EquivalenceOn (fun m n => Number.same m n = true) N)
    (hS : EquivalenceOn SameValue S) : EquivalenceOn SameValue (Layer N S) := by
  have hover := over_equivalenceOn hS
  -- A number is like numbers alone, so numbers and other values are apart throughout.
  have hnumber : ∀ n, Layer N S (.number n) → N n := by
    intro n h
    cases h with
    | number _ h => exact h
    | other _ hkind _ => exact absurd rfl (hkind n)
  refine ⟨fun v hv => ?_, fun v w hv hw hvw => ?_, fun u v w hu hv hw huv hvw => ?_⟩
  -- The three laws, each for numbers by the condition on numbers and for other values by that on
  -- their parts.
  · cases hv with
    | number n h => exact hN.refl n h
    | other _ _ h => exact hover.refl v h
  · cases hv with
    | number n h =>
        obtain ⟨k, rfl⟩ := exists_of_number_same n w hvw
        exact hN.symm n k h (hnumber k hw) hvw
    | other _ hkind h =>
        cases hw with
        | number k _ =>
            obtain ⟨n, rfl⟩ := exists_of_same_number k v hvw
            exact absurd rfl (hkind n)
        | other _ _ h' => exact hover.symm v w h h' hvw
  · cases hu with
    | number n h =>
        obtain ⟨k, rfl⟩ := exists_of_number_same n v huv
        obtain ⟨l, rfl⟩ := exists_of_number_same k w hvw
        exact hN.trans n k l h (hnumber k hv) (hnumber l hw) huv hvw
    | other _ hkind h =>
        cases hv with
        | number k _ =>
            obtain ⟨n, rfl⟩ := exists_of_same_number k u huv
            exact absurd rfl (hkind n)
        | other _ hkind' h' =>
            cases hw with
            | number l _ =>
                obtain ⟨k, rfl⟩ := exists_of_same_number l v hvw
                exact absurd rfl (hkind' k)
            | other _ _ h'' => exact hover.trans u v w h h' h'' huv hvw

/-- Equality is an equivalence on values made of numbers on which it is one. -/
theorem madeOf_equivalenceOn (hN : EquivalenceOn (fun m n => Number.same m n = true) N) :
    EquivalenceOn SameValue (MadeOf N) :=
  equivalenceOn_of_layer (Layer N) MadeOf.layer_smaller fun _ hT => layer_equivalenceOn hN hT

end Value

namespace Mapping

theorem same_iff (m n : Mapping) : (m == n) = true ↔ SameValue (.map m) (.map n) :=
  Iff.rfl

theorem entries_ofList_pair (k l v w : Value) (h : (k == l) = false) :
    (ofList [(k, v), (l, w)]).entries = [(k, v), (l, w)] := by
  change insertInto l w [(k, v)] = _
  rw [insertInto, h]
  rfl

theorem madeOf_ofList_pair {N : Number → Prop} (k l v w : Value) (hk : k.MadeOf N) (hl : l.MadeOf N)
    (hv : v.MadeOf N) (hw : w.MadeOf N) : (Value.map (ofList [(k, v), (l, w)])).MadeOf N :=
  .map _ (List.forall_mem_cons.mpr ⟨hk, List.forall_mem_singleton.mpr hl⟩)
    (List.forall_mem_cons.mpr ⟨hv, List.forall_mem_singleton.mpr hw⟩)

/-- Two whole numbers that one double equals tell the sides apart: as keys they both find the
    double, but something else is left over in the other direction. -/
theorem same_sides (x : Binary64) (m n : Int64)
    (hm : (Number.float x).same (.int m) = true) (hn : (Number.float x).same (.int n) = true)
    (hne : m ≠ n) :
    let wholes := ofList [(.number (.int m), .nil), (.number (.int n), .nil)]
    let mixed := ofList [(.number (.float x), .nil), (.nil, .nil)]
    (wholes == mixed) = true ∧ (mixed == wholes) = false := by
  intro wholes mixed
  have hwholes : wholes.entries = [(.number (.int m), .nil), (.number (.int n), .nil)] :=
    entries_ofList_pair _ _ _ _ (beq_eq_false_iff_ne.mpr hne : (m == n) = false)
  have hmixed : mixed.entries = [(.number (.float x), .nil), (.nil, .nil)] :=
    entries_ofList_pair _ _ _ _ rfl
  -- Either whole number finds the double under its key.
  have hfound : ∀ k, (Number.float x).same (.int k) = true →
      finds mixed.entries (.number (.int k), .nil) = true := by
    intro k hk
    have hkey : ((Value.number (.float x)) == .number (.int k)) = true := hk
    rw [hmixed, finds, List.find?_cons, hkey]
    rfl
  constructor
  · rw [same_iff]
    refine (Value.map_beq_iff wholes mixed).mpr ⟨by rw [hwholes, hmixed]; rfl, ?_⟩
    rw [hwholes]
    intro entry hentry
    rcases List.mem_pair.mp hentry with rfl | rfl
    · exact hfound m hm
    · exact hfound n hn
  · refine Bool.eq_false_iff.mpr fun h => ?_
    -- Asked from the other side, the entry under nil finds nothing.
    obtain ⟨-, hall⟩ := (Value.map_beq_iff mixed wholes).mp ((same_iff mixed wholes).mp h)
    have hnil := hall (.nil, .nil) (by rw [hmixed]; exact List.mem_cons_of_mem _ List.mem_cons_self)
    rw [hwholes] at hnil
    exact Bool.noConfusion hnil

/-- Among maps made of the numbers of a set, none of which is not a number, it never matters which
    side is asked exactly if no double of the set equals two of its whole numbers. -/
theorem same_comm_iff_apart (N : Number → Prop) (hN : ∀ n, N n → n ≠ .float .nan) :
    (∀ m o : Mapping, (Value.map m).MadeOf N → (Value.map o).MadeOf N →
      ((m == o) = true ↔ (o == m) = true)) ↔ Number.Apart N := by
  constructor
  · intro hsymm x m n hx hm hn hxm hxn
    by_contra hne
    obtain ⟨hforth, hback⟩ := same_sides x m n hxm hxn hne
    have hwholes := madeOf_ofList_pair _ _ _ _ (.number _ hm) (.number _ hn) .nil .nil
    have hmixed := madeOf_ofList_pair _ _ _ _ (.number _ hx) .nil .nil .nil
    exact ne_true_of_eq_false hback ((hsymm _ _ hwholes hmixed).mp hforth)
  · intro hapart m o hm ho
    have hequiv := Value.madeOf_equivalenceOn (Number.same_equivalenceOn N hN hapart)
    exact ⟨hequiv.symm _ _ hm ho, hequiv.symm _ _ ho hm⟩

/-- A half and two whole numbers, one of them in both kinds, with maps made of them. -/
theorem same_comm_iff_apart_small :
    let N : Number → Prop :=
      (· ∈ [.int 1, .int 2, .float (.ofInt 1), .float (.ofRatio false 1 2)])
    let m := ofList [(.number (.int 1), .atom "a"), (.number (.float (.ofRatio false 1 2)), .nil)]
    let o := ofList [(.number (.float (.ofRatio false 1 2)), .nil),
      (.number (.float (.ofInt 1)), .atom "a")]
    (∀ n, N n → n ≠ .float .nan) ∧ Number.Apart N ∧ (Value.map m).MadeOf N ∧
      (Value.map o).MadeOf N ∧ (m == o) = true ∧ (o == m) = true := by
  intro N m o
  have hN : ∀ n, N n → n ≠ .float .nan := by
    change ∀ n ∈ [Number.int 1, .int 2, .float (.ofInt 1), .float (.ofRatio false 1 2)], _
    decide +kernel
  -- Whole numbers that a double has exactly cannot be taken for one another.
  have hsmall : ∀ n, N (.int n) → n.toInt.natAbs ≤ 2 ^ 53 := by
    rintro n hn
    simp [N] at hn
    rcases hn with rfl | rfl <;> decide
  have hapart := Number.apart_of_small N hsmall
  have hm : (Value.map m).MadeOf N := madeOf_ofList_pair _ _ _ _
    (.number _ (by simp [N])) (.number _ (by simp [N])) (.atom _) .nil
  have ho : (Value.map o).MadeOf N := madeOf_ofList_pair _ _ _ _
    (.number _ (by simp [N])) (.number _ (by simp [N])) .nil (.atom _)
  have hmo : (m == o) = true := by decide +kernel
  exact ⟨hN, hapart, hm, ho, hmo, ((same_comm_iff_apart N hN).mpr hapart m o hm ho).mp hmo⟩

/-- Two neighbouring whole numbers round to one double, and none of the keys is not a number. -/
theorem sides_differ_beyond_precision :
    let m := ofList
      [(.number (.int 9007199254740992), .nil), (.number (.int 9007199254740993), .nil)]
    let o := ofList [(.number (.float (.ofInt 9007199254740992)), .nil), (.string "x", .nil)]
    (Value.map m).MadeOf (· ≠ .float .nan) ∧ (Value.map o).MadeOf (· ≠ .float .nan) ∧
      ¬ ((m == o) = true ↔ (o == m) = true) := by
  refine ⟨?_, ?_, by decide +kernel⟩
  · exact madeOf_ofList_pair _ _ _ _ (.number _ (by decide)) (.number _ (by decide)) .nil .nil
  · exact madeOf_ofList_pair _ _ _ _ (.number _ (by decide +kernel)) (.string _) .nil .nil

end Mapping

end FieldSchema
