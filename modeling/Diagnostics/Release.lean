namespace Diagnostics.Release

def version : String := "0.6.0"

def names : List String :=
  ["Annotation", "AnnotationType", "CharSet", "ColorChoice", "ColumnTooLargeError", "DisplayStyle",
   "FileMissingError", "IndexTooLargeError", "InvalidCharBoundaryError", "Issue", "IssueSeverity",
   "LineTooLargeError", "RenderConfig", "Report", "ReportBuilder", "ReportCollection", "ReportError",
   "ReportFooter", "ReportIOError", "Reportable", "Source", "SourceMap", "Span", "__version__"]

end Diagnostics.Release
