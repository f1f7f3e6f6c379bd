import Mathlib.Data.List.DropRight
import ReductionIR.Codec
import ReductionIR.Proofs.Drafting
import ReductionIR.Proofs.Evaluation
/-
What can be relied on in the library of the file format. Arrays are read as their initializers
declare them, and come back when they are written and read again. The laws are all that proofs
use of the library; the current one has them.
-/
namespace ReductionIR

open Stepwise

/-! Traversals that may fail -/

theorem except_mapM_eq_ok_iff {ε β γ : Type} {f : β → Except ε γ} {bs : List β} {cs : List γ} :
    bs.mapM f = .ok cs ↔ List.Forall₂ (fun b c => f b = .ok c) bs cs := by
  constructor
  · intro done
    induction bs generalizing cs with
    | nil =>
      cases done
      exact .nil
    | cons b rest ih =>
      rw [List.mapM_cons] at done
      obtain ⟨c, first, done⟩ := except_bind_eq_ok_iff.mp done
      obtain ⟨later, others, done⟩ := except_bind_eq_ok_iff.mp done
      cases done
      exact .cons first (ih others)
  · intro each
    induction each with
    | nil => rfl
    | cons first _ ih =>
      rw [List.mapM_cons, first, ih]
      rfl

theorem except_mapM_eq_ok {ε β γ : Type} {f : β → Except ε γ} {h : β → γ} {l : List β}
    (each : ∀ b ∈ l, f b = .ok (h b)) : l.mapM f = .ok (l.map h) := by
  rw [except_mapM_eq_ok_iff, List.forall₂_map_right_iff, List.forall₂_same]
  exact each

theorem except_map_of_mapM {ε β γ δ : Type} {f : β → Except ε γ} {before : β → δ} {behind : γ → δ}
    (same : ∀ b c, f b = .ok c → behind c = before b) {bs : List β} {cs : List γ}
    (each : bs.mapM f = .ok cs) : cs.map behind = bs.map before := by
  have alike := (except_mapM_eq_ok_iff.mp each).flip.imp fun c b done => same b c done
  rwa [← List.forall₂_map_right_iff, ← List.forall₂_map_left_iff, List.forall₂_eq_eq_eq] at alike

/-! Laws -/

namespace Codec

/-- What is written of an array is read back as the array. -/
def Restores (codec : Codec) (data : Dense) : Prop :=
  ∀ name, ∃ init, codec.initializer name data = .ok init ∧ init.name = name ∧
    codec.array init = .ok data

/-- Arrays are read as initializers declare them: with their element type and, unless one is
    left open, their dims, and with an element at every index. -/
structure Reads (codec : Codec) : Prop where
  code_eq : ∀ {init data}, codec.array init = .ok data → data.kind.code = init.elemCode
  dims_eq : ∀ {init data}, codec.array init = .ok data → (∀ n ∈ init.dims, 0 ≤ n) →
    data.dims.map Int.ofNat = init.dims
  full : ∀ {init data}, codec.array init = .ok data → data.elements.length = data.dims.prod

/-- Arrays that were read, and arrays of 64-bit integers, can be written and come back. The
    opsets that a model may ask for have a file version. -/
structure Lawful (codec : Codec) : Prop extends codec.Reads where
  restores_read : ∀ {init data}, codec.array init = .ok data → codec.Restores data
  restores_integers : ∀ {data : Dense}, data.HoldsIntegers → codec.Restores data
  exists_version : ∀ {opset}, 18 ≤ opset → opset ≤ 28 →
    ∃ version, codec.irVersion? opset = some version

/-- Initializers go by the names that they are written under. -/
def KeepsNames (codec : Codec) : Prop :=
  ∀ name data init, codec.initializer name data = .ok init → init.name = name

/-- The initializer that an array is written as, if it can be written. -/
def written (codec : Codec) (name : String) (data : Dense) : Model.Initializer :=
  (codec.initializer name data).toOption.getD { name, elemCode := 0, dims := [], elements := [] }

section Written

variable {codec : Codec} {data : Dense}

theorem eq_written {name : String} {init : Model.Initializer}
    (done : codec.initializer name data = .ok init) : init = codec.written name data := by
  rw [written, done]
  rfl

variable (restores : codec.Restores data) (name : String)

include restores

theorem Restores.initializer_eq :
    codec.initializer name data = .ok (codec.written name data) := by
  obtain ⟨init, done, _⟩ := restores name
  exact eq_written done ▸ done

theorem Restores.name_written : (codec.written name data).name = name := by
  obtain ⟨init, done, named, _⟩ := restores name
  exact eq_written done ▸ named

theorem Restores.array_written : codec.array (codec.written name data) = .ok data := by
  obtain ⟨init, done, _, read⟩ := restores name
  exact eq_written done ▸ read

end Written

end Codec

/-! The current library -/

theorem ElemKind.code_of_ofCode? {n : Int} {kind : ElemKind} (found : ofCode? n = some kind) :
    kind.code = n := by
  simpa using List.find?_some found

namespace Model

/-- Dims as they come out, with one number for all that were left open. -/
theorem prod_resolved (left : Nat) (dims : List Int) :
    ((dims.map fun n => if n < 0 then (left : Int) else n).map Int.toNat).prod =
      ((dims.filter fun n => decide (0 ≤ n)).map Int.toNat).prod *
        left ^ (dims.filter fun n => decide (n < 0)).length := by
  induction dims with
  | nil => rfl
  | cons n rest ih =>
    rw [List.map_cons, List.map_cons, List.prod_cons, ih]
    by_cases negative : n < 0
    · have other : ¬ 0 ≤ n := by omega
      simp only [negative, other, ↓reduceIte, List.filter_cons, decide_true, decide_false,
        Bool.false_eq_true, List.length_cons, Int.toNat_natCast]
      rw [Nat.pow_succ, Nat.mul_comm, Nat.mul_assoc]
    · have natural : 0 ≤ n := by omega
      simp only [negative, natural, ↓reduceIte, List.filter_cons, decide_true, decide_false,
        Bool.false_eq_true, List.map_cons, List.prod_cons]
      exact (Nat.mul_assoc ..).symm

theorem toNat_ofNat (dims : List Nat) : (dims.map Int.ofNat).map Int.toNat = dims := by
  rw [List.map_map]
  exact List.map_id dims

theorem foldl_toNat (dims : List Int) (start : Nat) :
    dims.foldl (fun n d => n * d.toNat) start = start * (dims.map Int.toNat).prod := by
  induction dims generalizing start with
  | nil => simp
  | cons d rest ih => simp [ih, Nat.mul_assoc]

theorem prod_of_resolveDims {count : Nat} {dims resolved : List Int}
    (done : resolveDims count dims = .ok resolved) : (resolved.map Int.toNat).prod = count := by
  unfold resolveDims at done
  rw [foldl_toNat, Nat.one_mul] at done
  dsimp only at done
  have products := prod_resolved
  -- no dim is open, or one takes what the others leave
  split at done
  · rename_i closed
    split at done
    · rename_i same
      cases done
      have kept : (dims.map fun n => if n < 0 then ((0 : Nat) : Int) else n) = dims := by
        have all_natural := List.filter_eq_nil_iff.mp (List.length_eq_zero_iff.mp closed)
        refine (List.map_congr_left fun n member => ?_).trans (List.map_id _)
        have natural := all_natural n member
        rw [decide_eq_true_iff] at natural
        rw [if_neg natural]
        rfl
      rw [← kept, products, closed, same, Nat.pow_zero, Nat.mul_one]
    · contradiction
  · rename_i one
    split at done
    · contradiction
    · rename_i divides
      cases done
      rw [products, one, Nat.pow_one]
      rw [not_or, not_not] at divides
      exact Nat.mul_div_cancel' (Nat.dvd_of_mod_eq_zero divides.2)
  · contradiction

theorem resolveDims_of_natural {count : Nat} {dims : List Int} (natural : ∀ n ∈ dims, 0 ≤ n) :
    resolveDims count dims =
      if (dims.map Int.toNat).prod = count then .ok dims else .error .ragged := by
  have known : dims.filter (fun n => decide (0 ≤ n)) = dims :=
    List.filter_eq_self.mpr fun n member => decide_eq_true (natural n member)
  have closed : dims.filter (fun n => decide (n < 0)) = [] := by
    refine List.filter_eq_nil_iff.mpr fun n member => ?_
    simpa using natural n member
  unfold resolveDims
  rw [known, closed, foldl_toNat, Nat.one_mul]
  rfl

theorem resolveDims_of_lengths {count : Nat} {dims : List Nat} (full : dims.prod = count) :
    resolveDims count (dims.map Int.ofNat) = .ok (dims.map Int.ofNat) := by
  have natural : ∀ n ∈ dims.map Int.ofNat, 0 ≤ n := by
    intro n member
    obtain ⟨length, _, rfl⟩ := List.mem_map.mp member
    exact Int.natCast_nonneg length
  rw [resolveDims_of_natural natural, toNat_ofNat, if_pos full]

end Model

theorem Value.fitted_eq (width : Nat) (s : String) : fitted width s =
    String.ofList ((s.toList.take width).rdropWhile fun c => c.toNat == 0) := rfl

theorem Value.length_fitted_le (width : Nat) (s : String) : (fitted width s).length ≤ width := by
  rw [fitted_eq, ← String.length_toList, String.toList_ofList]
  refine (List.rdropWhile_prefix _ _).length_le.trans ?_
  exact List.length_take_le width s.toList

/-- A text that was cut to an element stays what it is in one as wide. -/
theorem Value.fitted_fitted {width wide : Nat} {s : String}
    (fits : (fitted width s).length ≤ wide) : fitted wide (fitted width s) = fitted width s := by
  rw [← String.length_toList] at fits
  rw [fitted_eq wide, List.take_of_length_le fits, fitted_eq width, String.toList_ofList,
    List.rdropWhile_idempotent]

namespace Model

variable {kind : ElemKind} {v w : Value}

theorem storedElement_of_range {least greatest : Int}
    (ranged : kind.range? = some (least, greatest)) :
    storedElement kind v = .ok w ↔
      ∃ n, v.truncated = .ok n ∧ least ≤ n ∧ n ≤ greatest ∧ w = .int n := by
  have plain : storedElement kind v = Value.asElement kind v := by
    cases kind <;> cases v <;> first | rfl | contradiction
  rw [plain]
  unfold Value.asElement
  rw [ranged]
  dsimp only
  rw [except_bind_eq_ok_iff]
  refine exists_congr fun n => and_congr_right fun _ => ?_
  unfold Value.bounded
  split
  · next fits => simp [fits, eq_comm]
  · next outside =>
    constructor
    · intro failed
      contradiction
    · rintro ⟨above, below, _⟩
      exact absurd ⟨above, below⟩ outside

theorem exists_float_of_map {x : Except Breakdown Binary64} (done : x.map Value.float = .ok w) :
    ∃ y, w = .float y := by
  cases x with
  | error failure => contradiction
  | ok y =>
    cases done
    exact ⟨y, rfl⟩

theorem storedElement_of_floating (floating : kind.isFloating = true)
    (read : storedElement kind v = .ok w) : ∃ x, w = .float x := by
  have settled : Value.asElement kind v = .ok w → ∃ x, w = .float x := by
    intro done
    unfold Value.asElement at done
    cases kind <;> first
      | contradiction
      | exact exists_float_of_map done
      | (obtain ⟨x, _, done⟩ := except_bind_eq_ok_iff.mp done
         cases done
         exact ⟨_, rfl⟩)
  cases v with
  | float x =>
    have kept : storedElement kind (.float x) = .ok (.float x) := by
      cases kind <;> first | rfl | contradiction
    exact ⟨x, (Except.ok.inj (kept.symm.trans read)).symm⟩
  | _ => exact settled (by cases kind <;> first | exact read | contradiction)

theorem storedElement_object (read : storedElement .object v = .ok w) :
    ∃ s : String, w = .text (Value.fitted s.length s) := by
  cases v with
  | text s => exact ⟨s, (Except.ok.inj read).symm⟩
  | bytes data =>
    change (decodeText data).map _ = _ at read
    cases decoded : decodeText data with
    | error failure =>
      rw [decoded] at read
      contradiction
    | ok s =>
      rw [decoded] at read
      exact ⟨s, (Except.ok.inj read).symm⟩
  | _ => contradiction

/-- What was read as an element is read as the same element again. -/
theorem storedElement_again (read : storedElement kind v = .ok w) :
    storedElement kind w = .ok w := by
  cases ranged : kind.range? with
  | some bounds =>
    obtain ⟨n, _, least, greatest, rfl⟩ := (storedElement_of_range ranged).mp read
    exact (storedElement_of_range ranged).mpr ⟨n, rfl, least, greatest, rfl⟩
  | none =>
    cases floating : kind.isFloating with
    | true =>
      obtain ⟨x, rfl⟩ := storedElement_of_floating floating read
      cases kind <;> first | rfl | contradiction
    | false =>
      -- truth values and texts are left
      cases kind with
      | bool =>
        have settled : w = .bool v.holds := by
          cases v <;> exact (Except.ok.inj read).symm
        rw [settled]
        rfl
      | text width =>
        have settled : w = .text (Value.fitted width v.plain) := by
          cases v <;> exact (Except.ok.inj read).symm
        rw [settled]
        exact congrArg (fun s => Except.ok (Value.text s))
          (Value.fitted_fitted (Value.length_fitted_le ..))
      | object =>
        obtain ⟨s, rfl⟩ := storedElement_object read
        exact congrArg (fun s => Except.ok (Value.text s)) (Value.fitted_fitted (Nat.le_refl _))
      | _ => first | contradiction

end Model

namespace Codec

theorem array_current_iff {init : Model.Initializer} {data : Dense} :
    current.array init = .ok data ↔ ∃ kind dims elements,
      ElemKind.ofCode? init.elemCode = some kind ∧
      Model.resolveDims init.elements.length init.dims = .ok dims ∧
      init.elements.mapM (Model.storedElement kind) = .ok elements ∧
      data = ⟨kind, dims.map Int.toNat, elements⟩ := by
  refine mapError_eq_ok_iff.trans ?_
  unfold Model.Initializer.array
  cases ElemKind.ofCode? init.elemCode with
  | none => simp
  | some kind =>
    simp only [except_bind_eq_ok_iff, pure, Except.pure, Except.ok.injEq, Option.some.injEq]
    constructor
    · rintro ⟨dims, resolved, elements, each, rfl⟩
      exact ⟨kind, dims, elements, rfl, resolved, each, rfl⟩
    · rintro ⟨_, dims, elements, rfl, resolved, each, rfl⟩
      exact ⟨dims, resolved, elements, each, rfl⟩

theorem array_ofArray {data : Dense} (name : String) (known : ElemKind.ofCode? data.kind.code =
    some data.kind) (full : data.elements.length = data.dims.prod)
    (again : ∀ v ∈ data.elements, Model.storedElement data.kind v = .ok v) :
    current.array (.ofArray name data) = .ok data := by
  have each := except_mapM_eq_ok (h := id) again
  rw [List.map_id] at each
  refine array_current_iff.mpr ⟨data.kind, data.dims.map Int.ofNat, data.elements, known,
    Model.resolveDims_of_lengths full.symm, each, ?_⟩
  rw [Model.toNat_ofNat]

theorem current_restores {data : Dense} (known : ElemKind.ofCode? data.kind.code = some data.kind)
    (full : data.elements.length = data.dims.prod)
    (again : ∀ v ∈ data.elements, Model.storedElement data.kind v = .ok v) :
    current.Restores data := by
  intro name
  refine ⟨.ofArray name data, if_neg ?_, rfl, array_ofArray name known full again⟩
  rw [Bool.and_eq_true, decide_eq_true_iff]
  rintro ⟨object, other⟩
  rw [object] at again
  have texts : data.elements.all Value.isText = true := by
    refine List.all_eq_true.mpr fun v member => ?_
    obtain ⟨s, rfl⟩ := Model.storedElement_object (again v member)
    rfl
  simp [texts] at other

theorem current_keepsNames : current.KeepsNames := by
  intro name data init done
  change (if _ then _ else _) = _ at done
  split at done
  · contradiction
  · cases done
    rfl

theorem current_reads : current.Reads where
  code_eq := by
    intro init data read
    obtain ⟨kind, _, _, found, _, _, rfl⟩ := array_current_iff.mp read
    exact ElemKind.code_of_ofCode? found
  dims_eq := by
    intro init data read natural
    obtain ⟨_, dims, _, _, resolved, _, rfl⟩ := array_current_iff.mp read
    rw [Model.resolveDims_of_natural natural] at resolved
    split at resolved
    · cases resolved
      rw [List.map_map]
      refine (List.map_congr_left fun n member => ?_).trans (List.map_id _)
      exact Int.toNat_of_nonneg (natural n member)
    · contradiction
  full := by
    intro init data read
    obtain ⟨_, dims, elements, _, resolved, each, rfl⟩ := array_current_iff.mp read
    rw [Model.prod_of_resolveDims resolved]
    exact (except_mapM_eq_ok_iff.mp each).length_eq.symm

theorem current_lawful : current.Lawful where
  toReads := current_reads
  restores_read := by
    intro init data read
    obtain ⟨kind, dims, elements, found, resolved, each, rfl⟩ := array_current_iff.mp read
    have length := (except_mapM_eq_ok_iff.mp each).length_eq
    refine current_restores ?_ ?_ ?_
    · dsimp only
      rw [ElemKind.code_of_ofCode? found, found]
    · exact length.symm.trans (Model.prod_of_resolveDims resolved).symm
    · intro v member
      obtain ⟨w, _, done⟩ := exists_of_forall₂ (except_mapM_eq_ok_iff.mp each).flip member
      exact Model.storedElement_again done
  restores_integers := by
    intro data holds
    refine current_restores ?_ holds.full ?_
    · rw [holds.kind]
      rfl
    · intro v member
      obtain ⟨n, rfl, fits⟩ := holds.fits v member
      rw [holds.kind]
      exact Value.asElement_int64_iff.mpr ⟨fits, rfl⟩
  exists_version := by
    intro opset least greatest
    obtain rfl | rfl | rfl | rfl | rfl | rfl | rfl | rfl | rfl | rfl | rfl :
        opset = 18 ∨ opset = 19 ∨ opset = 20 ∨ opset = 21 ∨ opset = 22 ∨ opset = 23 ∨
          opset = 24 ∨ opset = 25 ∨ opset = 26 ∨ opset = 27 ∨ opset = 28 := by
      omega
    all_goals exact ⟨_, rfl⟩

end Codec

end ReductionIR
