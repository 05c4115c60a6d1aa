import Mathlib.Logic.Function.Basic
import Mathlib.Tactic.Common
import ProviderRouting.Sharing.EntryName

/-!
# Entry names tell providers apart

The escape of a byte can be read off the front of any text that starts with it.  So the bytes of a
provider's name come back out of its stem, different providers have different files, and every file
named for a provider passes for an entry, as every other file does that ends in `.json`.
-/

namespace ProviderRouting.EntryName

/-- The bytes that a stem was made of. -/
def unescape : List Char → List UInt8
  | [] => []
  | '%' :: high :: low :: rest =>
    let value (digit : Char) := (Text.hexDigit? digit).getD 0
    (value high * 16 + value low).toUInt8 :: unescape rest
  | letter :: rest => letter.toNat.toUInt8 :: unescape rest

theorem hexDigit?_upperDigit : ∀ value < 16, Text.hexDigit? (upperDigit value) = some value := by
  decide

theorem unescape_cons {letter : Char} (plain : letter ≠ '%') (rest : List Char) :
    unescape (letter :: rest) = letter.toNat.toUInt8 :: unescape rest := by
  rw [unescape]
  intro high low tail marked _
  exact plain marked

/-- A kept byte is below the surrogates, so its character has its number, and the percent sign is
not kept. -/
theorem escape_kept {byte : UInt8} (kept : isKept byte) :
    (Char.ofNat byte.toNat).toNat = byte.toNat ∧ Char.ofNat byte.toNat ≠ '%' := by
  have number : (Char.ofNat byte.toNat).toNat = byte.toNat := by
    have small := byte.toNat_lt
    have valid : byte.toNat.isValidChar := .inl (by omega)
    rw [Char.ofNat, dif_pos valid]
    rfl
  refine ⟨number, fun percent => ?_⟩
  have same : byte = 37 := by
    rw [percent] at number
    exact UInt8.toNat_inj.mp number.symm
  subst same
  exact absurd kept (by decide)

/-- What a byte is written as can be read off the front. -/
theorem unescape_escape (byte : UInt8) (rest : List Char) :
    unescape (escape byte ++ rest) = byte :: unescape rest := by
  by_cases kept : isKept byte
  · obtain ⟨number, plain⟩ := escape_kept kept
    rw [escape, if_pos kept, List.singleton_append, unescape_cons plain, number]
    simp
  · have high := hexDigit?_upperDigit (byte.toNat / 16) (by have := byte.toNat_lt; omega)
    have low := hexDigit?_upperDigit (byte.toNat % 16) (Nat.mod_lt _ (by decide))
    have whole : byte.toNat / 16 * 16 + byte.toNat % 16 = byte.toNat := by omega
    rw [escape, if_neg kept]
    simp [unescape, high, low, whole]

theorem unescape_flatMap (bytes : List UInt8) : unescape (bytes.flatMap escape) = bytes := by
  induction bytes with
  | nil => rfl
  | cons byte rest ih => rw [List.flatMap_cons, unescape_escape, ih]

/-- The bytes of a provider's name come back out of its stem. -/
theorem unescape_stem (provider : String) :
    unescape (stem provider).toList = provider.toUTF8.toList := by
  rw [stem, String.toList_ofList, unescape_flatMap]

theorem toList_loop (bytes : ByteArray) (start : Nat) (reversed : List UInt8) :
    ByteArray.toList.loop bytes start reversed =
      reversed.reverse ++ bytes.data.toList.drop start := by
  fun_induction ByteArray.toList.loop bytes start reversed with
  | case1 start reversed inside ih =>
      have listed : start < bytes.data.toList.length := by simpa using inside
      rw [ih, List.drop_eq_getElem_cons listed]
      simp [ByteArray.get!, getElem!_pos bytes.data start inside]
  | case2 start reversed outside =>
      rw [List.drop_eq_nil_of_le (by simpa using outside), List.append_nil]

theorem toList_bytes (bytes : ByteArray) : bytes.toList = bytes.data.toList := by
  simp [ByteArray.toList, toList_loop]

/-- Different providers have different stems. -/
theorem stem_injective : Function.Injective stem := by
  intro first second same
  have bytes := congrArg (unescape ·.toList) same
  simp only [unescape_stem, toList_bytes] at bytes
  exact String.toByteArray_inj.mp (ByteArray.ext (Array.toList_inj.mp bytes))

/-- Different providers have different files. -/
theorem ofProvider_injective : Function.Injective ofProvider := by
  intro first second same
  have letters := congrArg String.toList same
  simp only [ofProvider, String.toList_append] at letters
  exact stem_injective (String.toList_inj.mp (List.append_cancel_right letters))

@[simp] theorem ofProvider_inj {first second : String} :
    ofProvider first = ofProvider second ↔ first = second :=
  ofProvider_injective.eq_iff

theorem stem_eq_empty {provider : String} : stem provider = "" ↔ provider = "" :=
  stem_injective.eq_iff' (by simp [stem, toList_bytes])

/-- The names that are looked into are those that end in `.json` and have something in front. -/
theorem isEntry_iff {name : String} :
    isEntry name ↔ ∃ stem, stem ≠ "" ∧ name = stem ++ ".json" := by
  rw [isEntry, Path.extension?, Path.splitExtension]
  constructor
  · have whole := List.takeWhile_append_dropWhile (p := (· ≠ '.')) (l := name.toList.reverse)
    generalize name.toList.reverse.takeWhile (· ≠ '.') = extension at whole ⊢
    generalize name.toList.reverse.dropWhile (· ≠ '.') = rest at whole ⊢
    intro ends
    split at ends
    · rename_i stem
      split at ends
      · exact absurd ends (by simp)
      · rename_i present
        have text : String.ofList extension.reverse = "json" := by simpa using ends
        have json : extension = ['n', 'o', 's', 'j'] := by
          simpa [List.reverse_eq_iff] using congrArg String.toList text
        refine ⟨String.ofList stem.reverse, by simpa using present, String.toList_inj.mp ?_⟩
        rw [← List.reverse_inj, ← whole, json]
        simp
    · exact absurd ends (by simp)
  · rintro ⟨stem, present, rfl⟩
    have reversed : (stem ++ ".json").toList.reverse =
        'n' :: 'o' :: 's' :: 'j' :: '.' :: stem.toList.reverse := by simp
    rw [reversed]
    simp [present]

/-- The file of a provider with a name is one that is looked into.  The file of the empty name is
not, since a dot in front of everything else starts no extension. -/
theorem isEntry_ofProvider {provider : String} :
    isEntry (ofProvider provider) ↔ provider ≠ "" := by
  have named : stem provider ≠ "" ↔ provider ≠ "" := stem_eq_empty.not
  rw [isEntry_iff, ← named]
  constructor
  · rintro ⟨front, present, same⟩
    have letters := congrArg String.toList same
    simp only [ofProvider, String.toList_append] at letters
    rwa [String.toList_inj.mp (List.append_cancel_right letters)]
  · exact fun present => ⟨stem provider, present, rfl⟩

end ProviderRouting.EntryName
