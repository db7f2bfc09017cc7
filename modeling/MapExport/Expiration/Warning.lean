import MapExport.Instant.Print
import MapExport.Mail.Letter
import MapExport.Run.Codec

/-!
# Warnings

The mail that tells the owner of a run when it expires. It has a plain and a marked-up form; in the
latter the name of the job, which a user chose, is escaped so that it stays a name.
-/

set_option autoImplicit false

namespace MapExport.Warning

/-- The subject of every warning. -/
def subject : String := "Your EventKit DataPack is set to expire."

/-- The characters that mean something in markup, each with what is written for it. -/
def entities : List (Char × String) :=
  [('&', "&amp;"), ('<', "&lt;"), ('>', "&gt;"), ('"', "&quot;"), ('\'', "&#39;")]

/-- Writes a text for every occurrence of a character. -/
def replace (c : Char) (text s : String) : String :=
  String.ofList (s.toList.flatMap fun d => if d = c then text.toList else [d])

/-- Replaces one character after the other in a whole text, each also in what the ones before have written. -/
def replaceAll : List (Char × String) → String → String
  | [], s => s
  | (c, text) :: table, s => replaceAll table (replace c text s)

/-- **A text inside markup.** The ampersand comes first, because the others bring it in. -/
def escapeMarkup (s : String) : String := replaceAll entities s

/-- A site without the slashes at its end. -/
def siteRoot (site : String) : String :=
  String.ofList (site.toList.reverse.dropWhile (· == '/')).reverse

/-- The page that shows how a job is doing. -/
def statusUrl (site : String) (job : Uid) : String := siteRoot site ++ "/status/" ++ job.text

/-- The plain form of a warning. -/
def plainBody (url date job : String) (threshold : Threshold) : String :=
  "Hello,\n\nYour EventKit DataPack \"" ++ job ++ "\" will expire on " ++ date ++ " (" ++
    threshold.name ++ " notice).\n" ++
    "After this date the files will be deleted and the DataPack will no longer be available.\n\n" ++
    "To view or re-run the DataPack, go to:\n" ++ url ++ "\n\nThe EventKit Team"

/-- What stands before the name of the job in the marked-up form. -/
def markedHead : String :=
  "<html>\n<body>\n<p>Hello,</p>\n<p>Your EventKit DataPack <strong>"

/-- What stands after the name of the job in the marked-up form. -/
def markedTail (url date : String) : String :=
  "</strong> will expire on " ++ date ++ ".\n" ++
    "After this date the files will be deleted and the DataPack will no longer be available.</p>\n" ++
    "<p>To view or re-run the DataPack, go to <a href=\"" ++ url ++ "\">" ++ url ++ "</a>.</p>\n" ++
    "<p>The EventKit Team</p>\n</body>\n</html>"

/-- The marked-up form of a warning. -/
def markedBody (url date job : String) : String :=
  markedHead ++ escapeMarkup job ++ markedTail url date

/-- **A warning** to the owner of a run. -/
def compose (site sender : String) (run : ExpiringRun) (recipient : String) (threshold : Threshold) :
    Mail :=
  let url := statusUrl site run.run.job
  let date := run.run.expiration.longText
  { subject
    plain := plainBody url date run.jobName threshold
    marked := markedBody url date run.jobName
    sender
    recipients := [recipient] }

end MapExport.Warning
