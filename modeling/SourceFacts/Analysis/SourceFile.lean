import SourceFacts.Analysis.Analyzer
import SourceFacts.Disk.Files
import SourceFacts.Facts.Descriptor

namespace SourceFacts.Analysis

/-!
# Reading source files

The size of a file is looked at before it is read, so that no file beyond the
limit is.
-/

open Config Disk Facts Failures Time

/-- The text of a file. -/
def readSource (settings : AnalysisSettings) (disk : Disk) (path : String) :
    Except Failure SourceText :=
  match disk.find true path with
  | .error error => .error (.fileAccess error)
  | .ok (_, node) =>
      let limit := settings.maxFileSizeBytes.toNat
      if limit < node.size then .error (.resourceLimit node.size limit)
      else
        match disk.read path with
        | .error error => .error (.fileAccess error)
        | .ok bytes =>
            match decode settings.encodingFallback bytes with
            | .error fault => .error (.encoding fault)
            | .ok decoded =>
                .ok { text := decoded.text, sizeBytes := bytes.length, encoding := decoded.encoding }

/-- Analyses the file that a descriptor describes. -/
def Analyzer.analyzeFile (analyzer : Analyzer) (disk : Disk) (file : Descriptor) (now : Instant)
    (log : Log) : Except Failure Analyzed × Log :=
  analyzer.analyzeRead file.path file.sizeBytes (readSource analyzer.settings disk file.path) now
    log

end SourceFacts.Analysis
