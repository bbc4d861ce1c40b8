import BindingGen.Generation
import BindingGen.Proofs.Files.Reading

/-!
# What generation leaves as it is

Loading a listing reads a file and notes what it found.  Writing the files of a run changes the
store and notes each file.  Neither moves the place that relative paths start from, and nothing is
printed on the way.
-/

namespace BindingGen
namespace Generation

open InStore

variable {γ : Type} (part : Session → γ)

/-! ## Loading -/

section Loading

variable [IgnoresNotes part]

theorem keeps_noteRepetitions (repetitions : List Prototype.Repetition) :
    Keeps part (noteRepetitions repetitions : InStore Unit) := by
  induction repetitions with
  | nil => exact keeps_pure ()
  | cons repetition rest ih => exact (keeps_note _).bind fun _ => ih

theorem keeps_load (path : String) (keepRepeated : Bool) :
    Keeps part (load path keepRepeated : InStore _) := by
  unfold load
  refine (keeps_readText path).bind fun text => ?_
  cases text with
  | error fault => exact keeps_pure _
  | ok text =>
      refine (keeps_noteRepetitions part _).bind fun _ => ?_
      split
      · exact keeps_pure _
      · split
        · exact (keeps_note _).bind fun _ => keeps_pure _
        · exact keeps_pure _

end Loading

/-! ## Writing -/

section Writing

variable [IgnoresStore part]

theorem keeps_prepare (s : Settings) (directory : String) :
    Keeps part (prepare s directory : InStore _) := by
  unfold prepare
  split
  · exact keeps_pure _
  · refine ((Workspace.onlyCreates_createDirectories directory).keeps part).bind fun result => ?_
    cases result <;> exact keeps_pure _

variable [IgnoresNotes part]

theorem keeps_writeSource (directory : String) (role : FileRole) (file : SourceFile) :
    Keeps part (writeSource directory role file : InStore _) := by
  unfold writeSource
  refine (keeps_writeBytes _ _).bind fun result => ?_
  cases result with
  | error fault => exact keeps_pure _
  | ok => exact (keeps_note _).bind fun _ => keeps_pure _

theorem keeps_writeAll (directory : String) (planned : List Planned) :
    Keeps part (writeAll directory planned : InStore _) := by
  induction planned with
  | nil => exact keeps_pure _
  | cons first rest ih =>
      obtain ⟨role, text⟩ := first
      cases text with
      | error fault => exact keeps_pure _
      | ok file =>
          refine (keeps_writeSource part directory role file).bind fun result => ?_
          cases result with
          | error fault => exact keeps_pure _
          | ok written =>
              refine ih.bind fun more => ?_
              cases more <;> exact keeps_pure _

theorem keeps_run (s : Settings) (prototypes : List Prototype) (directory : String) :
    Keeps part (run s prototypes directory : InStore _) := by
  unfold run
  refine (keeps_prepare part s directory).bind fun prepared => ?_
  cases prepared with
  | error fault => exact keeps_pure _
  | ok =>
      refine (keeps_writeAll part directory _).bind fun written => ?_
      cases written with
      | error fault => exact keeps_pure _
      | ok files => exact (keeps_note _).bind fun _ => keeps_pure _

theorem keeps_runFile (s : Settings) (input directory : String) :
    Keeps part (runFile s input directory : InStore _) := by
  unfold runFile
  refine (keeps_load part input s.keepRepeated).bind fun listing => ?_
  cases listing with
  | error fault => exact keeps_pure _
  | ok prototypes => exact keeps_run part s prototypes directory

theorem keeps_runExports (s : Settings) (prototypes : List Prototype) (directory : String) :
    Keeps part (runExports s prototypes directory : InStore _) := by
  unfold runExports
  refine (keeps_prepare part s directory).bind fun prepared => ?_
  cases prepared with
  | error fault => exact keeps_pure _
  | ok =>
      cases text : SourceFile.exportList s prototypes with
      | error fault => exact keeps_pure _
      | ok file => exact keeps_writeSource part directory .exportList file

end Writing

end Generation
end BindingGen
