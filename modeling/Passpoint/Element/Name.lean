import Passpoint.Element.Capabilities
import Passpoint.Text.Latin1
import Passpoint.Text.Utf8

/-!
The name of a network as text. Its octets are UTF-8 if the capabilities say so and ISO-8859-1
otherwise; octets that are no UTF-8 show as U+FFFD. The capabilities may come behind the name, so
the octets are kept until all elements have been read.
-/

namespace Passpoint.Element

def nameText (octets : Octets) (capabilities : Option Int) : String :=
  String.ofList
    (if Capabilities.announcesUtf8 capabilities then Text.Utf8.decodeLossy octets
     else Text.Latin1.decode octets)

end Passpoint.Element
