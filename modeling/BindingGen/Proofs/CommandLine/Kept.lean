import BindingGen.CommandLine.Run
import BindingGen.Proofs.Manifest.InStore

/-!
# What finding settings leaves as it is

On each of the ways to its settings a command asks about files, reads some of them and notes what
it found.  So it has changed no file and printed nothing afterwards, whether settings were found
or not.
-/

namespace BindingGen

open InStore

namespace CommandLine

variable {γ : Type} (part : Session → γ) [IgnoresNotes part]

theorem keeps_namedSettings (path : String) :
    Keeps part (namedSettings path : InStore _) := by
  unfold namedSettings
  refine (Manifest.keeps_load path).bind fun read => ?_
  cases read with
  | error fault => exact keeps_pure _
  | ok manifest =>
      dsimp only
      split
      case' h_1 => refine (keeps_pure _).bind fun base => ?_
      case' h_2 => refine keeps_currentDirectory.bind fun base => ?_
      -- Both ways to the directory of the manifest go on alike.
      all_goals
        refine (Manifest.keeps_resolve part manifest base).bind fun resolved => ?_
        cases resolved <;> exact keeps_pure _

theorem keeps_nearestSettings (directory : String) :
    Keeps part (nearestSettings directory : InStore _) := by
  unfold nearestSettings
  refine (Manifest.keeps_findAmong _).bind fun found => ?_
  cases found with
  | error fault => exact keeps_pure _
  | ok nearest =>
      cases nearest with
      | none => exact keeps_pure _
      | some entry =>
          refine (keeps_note _).bind fun _ => ?_
          refine (Manifest.keeps_resolve part entry.2 entry.1).bind fun resolved => ?_
          cases resolved <;> exact keeps_pure _

theorem keeps_loadSettings (named : Option String) :
    Keeps part (loadSettings named : InStore _) := by
  cases named with
  | some path => exact keeps_namedSettings part path
  | none =>
      exact keeps_currentDirectory.bind fun directory => keeps_nearestSettings part directory

end CommandLine
end BindingGen
