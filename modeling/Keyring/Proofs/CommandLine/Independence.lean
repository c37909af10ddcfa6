/-
Module: Keyring.Proofs.CommandLine.Independence
Purpose: Keys that nobody asked for have no influence.  An extraction depends on the selected
  records of its files, and on nothing else in the files.
Main exports: FilesAlike, extract_congr, execute_extract_congr, unrequested_independence
-/
import Keyring.Proofs.CommandLine.Compose
import Keyring.Proofs.Store.Independence

namespace Keyring.CommandLine

variable {mask : KeyMask} {first second : Bytes} {readFile other : ReadFile}
  {paths : List String} {selection : Selection}

/-- Each file is read in both ways with the same failure, or as containers that are alike on the
mask. -/
def FilesAlike (mask : KeyMask) (readFile other : ReadFile) (paths : List String) : Prop :=
  ∀ path ∈ paths, readFile path = other path ∨ ∃ first second,
    readFile path = .ok first ∧ other path = .ok second ∧ Record.AlikeOn mask first second

theorem readContainer_congr (path : String) (alike : Record.AlikeOn mask first second) :
    readContainer path first mask = readContainer path second mask := by
  rw [readContainer, readContainer, alike.importContainer_eq, alike.length_eq]

theorem readFiles_congr (alike : FilesAlike mask readFile other paths) (next : Store → Plan) :
    readFiles readFile mask next paths = readFiles other mask next paths := by
  funext store
  induction paths generalizing store with
  | nil => rfl
  | cons path rest inductionHypothesis =>
      have ⟨own, later⟩ := List.forall_mem_cons.1 alike
      have onward := funext (inductionHypothesis later)
      rw [readFiles, readFiles]
      rcases own with same | ⟨first, second, readFirst, readSecond, contents⟩
      · rw [same, onward]
      · rw [readFirst, readSecond]
        dsimp only
        rw [readContainer_congr path contents, onward]

/-- What an extraction prints and how it ends depends on selected records only. -/
theorem extract_congr
    (alike : ∀ mask, selection.mask = .ok mask → FilesAlike mask readFile other paths)
    (output : String) :
    extract readFile selection output paths = extract other selection output paths := by
  rw [extract, extract]
  cases selected : selection.mask with
  | error cause => rfl
  | ok mask => exact congrFun (readFiles_congr (alike mask selected) _) _

/-- Where an extraction can create its output it leaves the same contents in one file system as in
the other, and the report is the same. -/
theorem execute_extract_congr {files others : FileSystem} {supplies : Supplies} {output : String}
    {place : Place}
    (alike : ∀ mask, selection.mask = .ok mask → FilesAlike mask files.read others.read paths)
    (opens : files.Opens output place) (otherOpens : others.Opens output place) (rank : Int) :
    let run (files : FileSystem) :=
      (plan files.read supplies (.extract selection output paths)).execute rank files
    (run files).1 = (run others).1 ∧
      ((run files).1.exit = 0 → ∃ container, (run files).2 = files.write place container ∧
        (run others).2 = others.write place container) := by
  have create (files : FileSystem) (opens : files.Opens output place) (container : Bytes) :
      files.create output container = .ok (files.write place container) :=
    FileSystem.create_eq_ok.2 ⟨place, opens, rfl⟩
  have same : plan others.read supplies (.extract selection output paths) =
      plan files.read supplies (.extract selection output paths) :=
    (extract_congr alike output).symm
  dsimp only
  rw [same, plan]
  rcases extract_ends files.read selection output paths with ⟨cause, ending⟩ |
    ⟨-, -, container, -, -, -, ending⟩
  · simp [Plan.execute, Report.ofPlan, Report.failed, ending]
  · simp only [Plan.execute, ending, create files opens, create others otherOpens]
    exact ⟨trivial, fun _ => ⟨container, rfl, rfl⟩⟩

/-! ## Keys that are not asked for -/

/-- An import under a mask is the same for containers that differ in the data of records that the
mask does not select.  An export is the same for stores that agree on what it writes, so the private
integers behind the public halves do not count.  What an extraction reports, and what it writes, is
the same for files that differ in the data of records of other keys than the selected ones. -/
theorem unrequested_independence :
    (∀ mask first second, Record.AlikeOn mask first second → ∀ store,
      Store.importContainer first mask store = Store.importContainer second mask store) ∧
    (∀ mask one two, Store.AgreeOn mask one two →
      (∀ (σ : Type) (outer : σ),
        one.exportContainer mask outer = two.exportContainer mask outer) ∧
      ∀ output, writeKeys one mask output = writeKeys two mask output) ∧
    ∀ (files others : FileSystem) (selection : Selection) (paths : List String),
      (∀ mask, selection.mask = .ok mask → FilesAlike mask files.read others.read paths) →
      ∀ (supplies : Supplies) (output : String),
        let command := Command.extract selection output paths
        plan files.read supplies command = plan others.read supplies command ∧
        ∀ place, files.Opens output place → others.Opens output place → ∀ rank,
          let run (files : FileSystem) := (plan files.read supplies command).execute rank files
          (run files).1 = (run others).1 ∧
            ((run files).1.exit = 0 → ∃ container, (run files).2 = files.write place container ∧
              (run others).2 = others.write place container) := by
  refine ⟨?_, ?_, ?_⟩
  · intro mask first second alike store
    rw [alike.importContainer_eq]
  · intro mask one two agree
    refine ⟨fun σ outer => ?_, fun output => ?_⟩
    · rw [Store.exportContainer_congr agree]
    · rw [writeKeys, writeKeys, Store.exportContainer_congr agree]
  · intro files others selection paths alike supplies output
    refine ⟨extract_congr alike output, ?_⟩
    intro place opens otherOpens rank
    exact execute_extract_congr alike opens otherOpens rank

/-- A record of a private key, whatever it holds, and one of a file HMAC. -/
def mixed (skipped : Bytes) : List Record :=
  [⟨0, skipped⟩, ⟨4, List.replicate 32 7⟩]

/-- A file with both records, in the working directory. -/
def mixedFiles (skipped : Bytes) : FileSystem where
  entries := [(["home", "in"], .file (Record.join (mixed skipped)) FileSystem.ownerOnly)]
  workingDirectory := ["home"]

/-- A store with a public key behind which there may be private integers. -/
def publicKey (secret : Option RsaSecret) : Store :=
  Store.empty.setRsa .signPublic (some ⟨15, 3, secret⟩)

theorem mixed_alike : Record.AlikeOn (.single (.hmac .file)) (Record.join (mixed [1, 2, 3]))
    (Record.join (mixed [4, 5, 6])) := by
  apply Record.alike_join
  · unfold Bytes.Fits
    decide
  · refine .cons ⟨rfl, rfl, ?_⟩ (.cons ⟨rfl, rfl, fun _ _ _ => rfl⟩ .nil)
    intro id typed selected
    cases typed
    cases selected

theorem publicKey_agreeOn : Store.AgreeOn (.single (.rsa .signPublic)) (publicKey none)
    (publicKey (some ⟨3, 3, 5, 1, 3, 2⟩)) where
  privateSlots id asked half := by
    cases id <;> first | rfl | cases half
  publicSlots id _ _ := by cases id <;> rfl
  secrets id _ := by cases id <;> rfl

/-- Neither what is in the other record nor what is behind the public key is seen. -/
theorem mixed_independence :
    let run (skipped : Bytes) :=
      (plan (mixedFiles skipped).read ⟨[], []⟩ (.extract (.listing [4]) "out" ["in"])).execute 2
        (mixedFiles skipped)
    Store.importContainer (Record.join (mixed [1, 2, 3])) (.single (.hmac .file)) .empty =
        Store.importContainer (Record.join (mixed [4, 5, 6])) (.single (.hmac .file)) .empty ∧
      (publicKey none).exportContainer (.single (.rsa .signPublic)) () =
        (publicKey (some ⟨3, 3, 5, 1, 3, 2⟩)).exportContainer (.single (.rsa .signPublic)) () ∧
      (run [1, 2, 3]).1.exit = 0 ∧ (run [1, 2, 3]).1 = (run [4, 5, 6]).1 ∧
      ∃ container, (run [1, 2, 3]).2 = (mixedFiles [1, 2, 3]).write ["home", "out"] container ∧
        (run [4, 5, 6]).2 = (mixedFiles [4, 5, 6]).write ["home", "out"] container := by
  have alike : ∀ mask, (Selection.listing [4]).mask = .ok mask →
      FilesAlike mask (mixedFiles [1, 2, 3]).read (mixedFiles [4, 5, 6]).read ["in"] := by
    intro mask selected
    have own : (Selection.listing [4]).mask = .ok (.single (.hmac .file)) := by decide
    obtain rfl := Except.ok.inj (own.symm.trans selected)
    intro path listed
    obtain rfl := List.mem_singleton.1 listed
    exact .inr ⟨_, _, rfl, rfl, mixed_alike⟩
  have opens (skipped : Bytes) : (mixedFiles skipped).Opens "out" ["home", "out"] := by
    have led : (mixedFiles skipped).target true "out" = .ok (.vacant ["home", "out"]) := by rfl
    exact .vacant (FileSystem.target_eq_ok.1 led) rfl
  obtain ⟨imported, exported, extracted⟩ := unrequested_independence
  obtain ⟨-, written⟩ := extracted _ _ _ _ alike ⟨[], []⟩ "out"
  obtain ⟨reported, left⟩ := written _ (opens _) (opens _) 2
  have done : ((plan (mixedFiles [1, 2, 3]).read ⟨[], []⟩
      (.extract (.listing [4]) "out" ["in"])).execute 2 (mixedFiles [1, 2, 3])).1.exit = 0 := by
    decide +kernel
  exact ⟨imported _ _ _ mixed_alike .empty, (exported _ _ _ publicKey_agreeOn).1 Unit (), done,
    reported, left done⟩

end Keyring.CommandLine
