import NowPlaying.Template
import NowPlaying.Text.Quoted

/-!
# Descriptions of tokens

One line for each token of a template: what kind it is and what it says. Literal text is quoted, names are not, and a call of a helper that is not registered is marked.
-/

namespace NowPlaying

def unknownMark : String := "  (unknown helper)"

def Token.describe (registry : Registry) : Token → String
  | .literal text => "text      " ++ Text.quoted text
  | .lookup name => "variable  " ++ name
  | .call helper argument =>
    "function  " ++ helper ++ "(" ++ argument ++ ")" ++ if registry.contains helper then "" else unknownMark

end NowPlaying
