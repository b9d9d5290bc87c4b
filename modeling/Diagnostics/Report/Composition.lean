import Diagnostics.Config
import Diagnostics.Line
import Diagnostics.Report

namespace Diagnostics

namespace Report

def footerLines (config : Config) (r : Report) : List Line :=
  match r.footer with
  | none => []
  | some footer =>
      let g := Glyphs.ofCharSet config.charset
      let severity := r.severity.getD .error
      Line.header severity severity.tag footer.message
        :: (if config.style = .compact then []
            else footer.notes.flatMap fun note => Line.note g "note" note 2)
        ++ (if footer.summary then Line.note g "summary" r.summaryText 2 else [])
        ++ (if config.style = .full then [[]] else [])

end Report

end Diagnostics
