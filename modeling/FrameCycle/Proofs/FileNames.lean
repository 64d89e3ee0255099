import FrameCycle.Cycle.Basic
import FrameCycle.Proofs.Text.Utf8

/-!
The files that a run writes. Their names differ from each other, those of two enlargements if their
factors do, and names that differ give paths that differ in any directory.
-/
namespace FrameCycle

namespace Path

theorem ofString_inj {first second : String} :
    ofString first = ofString second ↔ first = second := by
  constructor
  · intro same
    have shown : (ofChars first.toList).lossy = (ofChars second.toList).lossy :=
      congrArg lossy same
    rw [lossy_ofChars, lossy_ofChars] at shown
    exact String.toList_inj.mp shown
  · exact congrArg ofString

/-- Files that are named relative to a directory keep apart in it. -/
theorem join_inj {dir first second : Path} (firstRelative : first.isAbsolute = false)
    (secondRelative : second.isAbsolute = false) :
    dir.join first = dir.join second ↔ first = second := by
  rcases first with ⟨first⟩
  rcases second with ⟨second⟩
  simp only [join, firstRelative, secondRelative, Bool.false_eq_true, ↓reduceIte]
  split <;> simp

end Path

inductive ImageFile where
  | grid
  | original
  | resized (factor : UInt32)

namespace ImageFile

def name : ImageFile → String
  | grid => gridFile
  | original => originalFile
  | resized factor => resizedFile factor

def path (directory : Path) (file : ImageFile) : Path :=
  directory.join (.ofString file.name)

theorem toList_resizedFile (factor : UInt32) :
    (resizedFile factor).toList =
      "resized_".toList ++ (Nat.toDigits 10 factor.toNat ++ "x.png".toList) := by
  rw [← Nat.toList_repr, ← String.toList_append, ← String.toList_append, ← String.append_assoc]
  rfl

theorem resizedFile_inj {first second : UInt32} :
    resizedFile first = resizedFile second ↔ first = second := by
  constructor
  · intro same
    have letters := congrArg String.toList same
    simp only [toList_resizedFile, List.append_cancel_left_eq, List.append_cancel_right_eq]
      at letters
    have value := congrArg (fun digits => Nat.ofDigitChars 10 digits 0) letters
    simp only [Nat.ofDigitChars_ten_toDigits] at value
    exact UInt32.toNat_inj.mp value
  · exact congrArg resizedFile

theorem name_injective : Function.Injective name := by
  intro first second same
  have letters := congrArg String.toList same
  cases first with
  | grid => cases second <;> simp [name, gridFile, originalFile, toList_resizedFile] at letters ⊢
  | original =>
      cases second <;> simp [name, gridFile, originalFile, toList_resizedFile] at letters ⊢
  | resized factor =>
      cases second with
      | grid => simp [name, gridFile, toList_resizedFile] at letters
      | original => simp [name, originalFile, toList_resizedFile] at letters
      | resized other => rw [resizedFile_inj.mp same]

theorem isAbsolute_ofString_name (file : ImageFile) :
    (Path.ofString file.name).isAbsolute = false := by
  unfold Path.ofString
  cases file with
  | grid => rfl
  | original => rfl
  | resized factor =>
      rw [name, toList_resizedFile]
      rfl

theorem path_injective (directory : Path) : Function.Injective (path directory) := by
  intro first second same
  have files := (Path.join_inj first.isAbsolute_ofString_name
    second.isAbsolute_ofString_name).mp same
  exact name_injective (Path.ofString_inj.mp files)

end ImageFile

end FrameCycle
