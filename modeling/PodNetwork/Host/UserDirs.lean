import PodNetwork.Text.Path

/-! The directories of a user. -/
namespace PodNetwork.Host

/-- The directory of the user's caches. One that is set counts only if it is an absolute path;
otherwise it lies in the home directory. -/
def cacheDir (setting home : Option String) : Option String :=
  match setting with
  | some dir => if dir.startsWith "/" then some dir else inHome
  | none => inHome
where
  inHome : Option String :=
    match home with
    | none | some "" => none
    | some home => some (Path.join home ".cache")

end PodNetwork.Host
