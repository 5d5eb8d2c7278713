import Heightfield.FileName
import Heightfield.Text.Quoted

/-!
# Image formats

The format of an image is chosen by the extension of its file name. Many formats are known by name;
PNG is the one that can be written.
-/

namespace Heightfield.Image

/-- Why an image cannot be written under a name. -/
inductive FormatError where
  /-- the name has no extension -/
  | undetermined
  /-- the extension is not known -/
  | unknownExtension (ext : String)
  /-- the format is known and cannot be written -/
  | unsupported (format : String)
  deriving DecidableEq, Repr

/-- The wording of the error. -/
def FormatError.message : FormatError → String
  | .undetermined => "The image format could not be determined"
  | .unknownExtension ext =>
    let name := Text.quoted ext
    s!"The file extension `.{name}` was not recognized as an image format"
  | .unsupported format => s!"The image format `{format}` is not supported"

/-- The formats by their extensions. -/
def formats : List (String × String) := [
  ("avif", "Avif"), ("jpg", "Jpeg"), ("jpeg", "Jpeg"), ("jfif", "Jpeg"), ("png", "Png"),
  ("apng", "Png"), ("gif", "Gif"), ("webp", "WebP"), ("tif", "Tiff"), ("tiff", "Tiff"),
  ("tga", "Tga"), ("dds", "Dds"), ("bmp", "Bmp"), ("ico", "Ico"), ("hdr", "Hdr"),
  ("exr", "OpenExr"), ("pbm", "Pnm"), ("pam", "Pnm"), ("ppm", "Pnm"), ("pgm", "Pnm"),
  ("pnm", "Pnm"), ("ff", "Farbfeld"), ("qoi", "Qoi")]

/-- The name of the format that a file name asks for. -/
def formatOf (path : String) : Except FormatError String :=
  match FileName.extension? path with
  | none => .error .undetermined
  | some ext =>
    match formats.lookup (String.ofList (ext.toList.map Char.toLower)) with
    | some format => .ok format
    | none => .error (.unknownExtension ext)

end Heightfield.Image
