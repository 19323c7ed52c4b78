/-! Encodings with one byte for each character, whose lower half is ASCII. -/
namespace CardPress.Xml

/-- What the bytes above ASCII stand for; a replacement character marks those that stand for none. With
`hasSigns` two ordinals and the micro sign count as letters. -/
structure CodePage where
  upper : String
  hasTilde : Bool := true
  hasSigns : Bool := false

namespace CodePage

/-- The character of a byte; a byte that stands for none gives one that no document may hold. -/
def decodeByte (upper : Array Char) (hasTilde : Bool) (b : UInt8) : Char :=
  if b.toNat < 128 then (if b.toNat = 126 && !hasTilde then '\uFFFF' else Char.ofNat b.toNat)
  else
    match upper[b.toNat - 128]? with
    | some c => if c = '\uFFFD' then '\uFFFF' else c
    | none => '\uFFFF'

def decode (p : CodePage) (bytes : List UInt8) : List Char :=
  let upper := p.upper.toList.toArray
  bytes.map (decodeByte upper p.hasTilde)

def ascii : CodePage := { upper := "" }

/-- ASCII in which the tilde opens another alphabet. -/
def hz : CodePage := { upper := "", hasTilde := false }

def latin1 : CodePage := { upper := String.ofList ((List.range 128).map fun n => Char.ofNat (128 + n)) }

def cp1006 : CodePage where
  upper :=
    "\u0080\u0081\u0082\u0083\u0084\u0085\u0086\u0087\u0088\u0089\u008a\u008b\u008c\u008d" ++
    "\u008e\u008f\u0090\u0091\u0092\u0093\u0094\u0095\u0096\u0097\u0098\u0099\u009a\u009b" ++
    "\u009c\u009d\u009e\u009f\u00a0۰۱۲۳۴۵۶۷۸" ++
    "۹،\u061b\u00ad\u061f\ufe81\ufe8d\ufe8e\ufe8e\ufe8f\ufe91\ufb56\ufb58\ufe93" ++
    "\ufe95\ufe97\ufb66\ufb68\ufe99\ufe9b\ufe9d\ufe9f\ufb7a\ufb7c\ufea1\ufea3\ufea5\ufea7" ++
    "\ufea9\ufb84\ufeab\ufead\ufb8c\ufeaf\ufb8a\ufeb1\ufeb3\ufeb5\ufeb7\ufeb9\ufebb\ufebd" ++
    "\ufebf\ufec1\ufec5\ufec9\ufeca\ufecb\ufecc\ufecd\ufece\ufecf\ufed0\ufed1\ufed3\ufed5" ++
    "\ufed7\ufed9\ufedb\ufb92\ufb94\ufedd\ufedf\ufee0\ufee1\ufee3\ufb9e\ufee5\ufee7\ufe85" ++
    "\ufeed\ufba6\ufba8\ufba9\ufbaa\ufe80\ufe89\ufe8a\ufe8b\ufef1\ufef2\ufef3\ufbb0\ufbae" ++
    "\ufe7c\ufe7d"

def cp1051 : CodePage where
  upper :=
    "\u0080\u0081\u0082\u0083\u0084\u0085\u0086\u0087\u0088\u0089\u008a\u008b\u008c\u008d" ++
    "\u008e\u008f\u0090\u0091\u0092\u0093\u0094\u0095\u0096\u0097\u0098\u0099\u009a\u009b" ++
    "\u009c\u009d\u009e\u009f\u00a0ÀÂÈÊËÎÏ´ˋ" ++
    "ˆ¨˜ÙÛ₤¯Ýý°ÇçÑñ" ++
    "¡¿¤£¥§ƒ¢âêôûáé" ++
    "óúàèòùäëöüÅîØÆ" ++
    "åíøæÄìÖÜÉïßÔÁÃ" ++
    "ãÐðÍÌÓÒÕõŠšÚŸÿ" ++
    "Þþ·µ¶¾—¼½ªº«■»" ++
    "±�"

def cp1125 : CodePage where
  upper :=
    "АБВГДЕЖЗИЙКЛМНОПРСТУФХЦЧШЩЪЫЬЭЮЯ" ++
    "абвгдежзийклмноп░▒▓│┤╡╢╖╕╣║╗╝╜╛┐" ++
    "└┴┬├─┼╞╟╚╔╩╦╠═╬╧╨╤╥╙╘╒╓╫╪┘┌█▄▌▐▀" ++
    "рстуфхцчшщъыьэюяЁёҐґЄєІіЇї·√№¤■\u00a0"

def cp1250 : CodePage where
  upper :=
    "€�‚�„…†‡�‰Š‹ŚŤŽŹ�‘’“”•–—�™š›śťžź" ++
    "\u00a0ˇ˘Ł¤Ą¦§¨©Ş«¬\u00ad®Ż°±˛ł´µ¶·¸ąş»Ľ˝ľż" ++
    "ŔÁÂĂÄĹĆÇČÉĘËĚÍÎĎĐŃŇÓÔŐÖ×ŘŮÚŰÜÝŢß" ++
    "ŕáâăäĺćçčéęëěíîďđńňóôőö÷řůúűüýţ˙"

def cp1251 : CodePage where
  upper :=
    "ЂЃ‚ѓ„…†‡€‰Љ‹ЊЌЋЏђ‘’“”•–—�™љ›њќћџ" ++
    "\u00a0ЎўЈ¤Ґ¦§Ё©Є«¬\u00ad®Ї°±Ііґµ¶·ё№є»јЅѕї" ++
    "АБВГДЕЖЗИЙКЛМНОПРСТУФХЦЧШЩЪЫЬЭЮЯ" ++
    "абвгдежзийклмнопрстуфхцчшщъыьэюя"

def cp1252 : CodePage where
  upper :=
    "€�‚ƒ„…†‡ˆ‰Š‹Œ�Ž��‘’“”•–—˜™š›œ�žŸ" ++
    "\u00a0¡¢£¤¥¦§¨©ª«¬\u00ad®¯°±²³´µ¶·¸¹º»¼½¾¿" ++
    "ÀÁÂÃÄÅÆÇÈÉÊËÌÍÎÏÐÑÒÓÔÕÖ×ØÙÚÛÜÝÞß" ++
    "àáâãäåæçèéêëìíîïðñòóôõö÷øùúûüýþÿ"

def cp1253 : CodePage where
  upper :=
    "€�‚ƒ„…†‡�‰�‹�����‘’“”•–—�™�›����" ++
    "\u00a0΅Ά£¤¥¦§¨©�«¬\u00ad®―°±²³΄µ¶·ΈΉΊ»Ό½ΎΏ" ++
    "ΐΑΒΓΔΕΖΗΘΙΚΛΜΝΞΟΠΡ�ΣΤΥΦΧΨΩΪΫάέήί" ++
    "ΰαβγδεζηθικλμνξοπρςστυφχψωϊϋόύώ�"

def cp1254 : CodePage where
  upper :=
    "€�‚ƒ„…†‡ˆ‰Š‹Œ����‘’“”•–—˜™š›œ��Ÿ" ++
    "\u00a0¡¢£¤¥¦§¨©ª«¬\u00ad®¯°±²³´µ¶·¸¹º»¼½¾¿" ++
    "ÀÁÂÃÄÅÆÇÈÉÊËÌÍÎÏĞÑÒÓÔÕÖ×ØÙÚÛÜİŞß" ++
    "àáâãäåæçèéêëìíîïğñòóôõö÷øùúûüışÿ"

def cp1255 : CodePage where
  upper :=
    "€�‚ƒ„…†‡ˆ‰�‹��" ++
    "���‘’“”•–—˜™�›" ++
    "����\u00a0¡¢£₪¥¦§¨©" ++
    "×«¬\u00ad®¯°±²³´µ¶·" ++
    "¸¹÷»¼½¾¿\u05b0\u05b1\u05b2\u05b3\u05b4\u05b5" ++
    "\u05b6\u05b7\u05b8\u05b9�\u05bb\u05bc\u05bd\u05be\u05bf\u05c0\u05c1\u05c2\u05c3" ++
    "\u05f0\u05f1\u05f2\u05f3\u05f4�������\u05d0\u05d1" ++
    "\u05d2\u05d3\u05d4\u05d5\u05d6\u05d7\u05d8\u05d9\u05da\u05db\u05dc\u05dd\u05de\u05df" ++
    "\u05e0\u05e1\u05e2\u05e3\u05e4\u05e5\u05e6\u05e7\u05e8\u05e9\u05ea��\u200e" ++
    "\u200f�"

def cp1256 : CodePage where
  upper :=
    "€\u067e‚ƒ„…†‡ˆ‰\u0679‹Œ\u0686" ++
    "\u0698\u0688\u06af‘’“”•–—\u06a9™\u0691›" ++
    "œ\u200c\u200d\u06ba\u00a0،¢£¤¥¦§¨©" ++
    "\u06be«¬\u00ad®¯°±²³´µ¶·" ++
    "¸¹\u061b»¼½¾\u061f\u06c1\u0621\u0622\u0623\u0624\u0625" ++
    "\u0626\u0627\u0628\u0629\u062a\u062b\u062c\u062d\u062e\u062f\u0630\u0631\u0632\u0633" ++
    "\u0634\u0635\u0636×\u0637\u0638\u0639\u063a\u0640\u0641\u0642\u0643à\u0644" ++
    "â\u0645\u0646\u0647\u0648çèéêë\u0649\u064aîï" ++
    "\u064b\u064c\u064d\u064eô\u064f\u0650÷\u0651ù\u0652ûü\u200e" ++
    "\u200f\u06d2"

def cp1257 : CodePage where
  upper :=
    "€�‚�„…†‡�‰�‹�¨ˇ¸�‘’“”•–—�™�›�¯˛�" ++
    "\u00a0�¢£¤�¦§Ø©Ŗ«¬\u00ad®Æ°±²³´µ¶·ø¹ŗ»¼½¾æ" ++
    "ĄĮĀĆÄÅĘĒČÉŹĖĢĶĪĻŠŃŅÓŌÕÖ×ŲŁŚŪÜŻŽß" ++
    "ąįāćäåęēčéźėģķīļšńņóōõö÷ųłśūüżž˙"

def cp1258 : CodePage where
  upper :=
    "€�‚ƒ„…†‡ˆ‰�‹Œ����‘’“”•–—˜™�›œ��Ÿ" ++
    "\u00a0¡¢£¤¥¦§¨©ª«¬\u00ad®¯°±²³´µ¶·¸¹º»¼½¾¿" ++
    "ÀÁÂĂÄÅÆÇÈÉÊË\u0300ÍÎÏĐÑ\u0309ÓÔƠÖ×ØÙÚÛÜƯ\u0303ß" ++
    "àáâăäåæçèéêë\u0301íîïđñ\u0323óôơö÷øùúûüư₫ÿ"

def cp154 : CodePage where
  upper :=
    "ҖҒӮғ„…ҶҮҲүҠӢҢҚҺҸҗ‘’“”•–—ҳҷҡӣңқһҹ" ++
    "\u00a0ЎўЈӨҘҰ§Ё©Ә«¬ӯ®Ҝ°ұІіҙө¶·ё№ә»јҪҫҝ" ++
    "АБВГДЕЖЗИЙКЛМНОПРСТУФХЦЧШЩЪЫЬЭЮЯ" ++
    "абвгдежзийклмнопрстуфхцчшщъыьэюя"

def cp437 : CodePage where
  upper :=
    "ÇüéâäàåçêëèïîìÄÅÉæÆôöòûùÿÖÜ¢£¥₧ƒ" ++
    "áíóúñÑªº¿⌐¬½¼¡«»░▒▓│┤╡╢╖╕╣║╗╝╜╛┐" ++
    "└┴┬├─┼╞╟╚╔╩╦╠═╬╧╨╤╥╙╘╒╓╫╪┘┌█▄▌▐▀" ++
    "αßΓπΣσµτΦΘΩδ∞φε∩≡±≥≤⌠⌡÷≈°∙·√ⁿ²■\u00a0"

def cp720 : CodePage where
  upper :=
    "\u0080\u0081éâ\u0084à\u0086çêëèïî\u008d" ++
    "\u008e\u008f\u0090\u0651\u0652ô¤\u0640ûù\u0621\u0622\u0623\u0624" ++
    "£\u0625\u0626\u0627\u0628\u0629\u062a\u062b\u062c\u062d\u062e\u062f\u0630\u0631" ++
    "\u0632\u0633\u0634\u0635«»░▒▓│┤╡╢╖" ++
    "╕╣║╗╝╜╛┐└┴┬├─┼" ++
    "╞╟╚╔╩╦╠═╬╧╨╤╥╙" ++
    "╘╒╓╫╪┘┌█▄▌▐▀\u0636\u0637" ++
    "\u0638\u0639\u063a\u0641µ\u0642\u0643\u0644\u0645\u0646\u0647\u0648\u0649\u064a" ++
    "≡\u064b\u064c\u064d\u064e\u064f\u0650≈°∙·√ⁿ²" ++
    "■\u00a0"

def cp737 : CodePage where
  upper :=
    "ΑΒΓΔΕΖΗΘΙΚΛΜΝΞΟΠΡΣΤΥΦΧΨΩαβγδεζηθ" ++
    "ικλμνξοπρσςτυφχψ░▒▓│┤╡╢╖╕╣║╗╝╜╛┐" ++
    "└┴┬├─┼╞╟╚╔╩╦╠═╬╧╨╤╥╙╘╒╓╫╪┘┌█▄▌▐▀" ++
    "ωάέήϊίόύϋώΆΈΉΊΌΎΏ±≥≤ΪΫ÷≈°∙·√ⁿ²■\u00a0"

def cp775 : CodePage where
  upper :=
    "ĆüéāäģåćłēŖŗīŹÄÅÉæÆōöĢ¢ŚśÖÜø£Ø×¤" ++
    "ĀĪóŻżź”¦©®¬½¼Ł«»░▒▓│┤ĄČĘĖ╣║╗╝ĮŠ┐" ++
    "└┴┬├─┼ŲŪ╚╔╩╦╠═╬Žąčęėįšųūž┘┌█▄▌▐▀" ++
    "ÓßŌŃõÕµńĶķĻļņĒŅ’\u00ad±“¾¶§÷„°∙·¹³²■\u00a0"

def cp850 : CodePage where
  upper :=
    "ÇüéâäàåçêëèïîìÄÅÉæÆôöòûùÿÖÜø£Ø×ƒ" ++
    "áíóúñÑªº¿®¬½¼¡«»░▒▓│┤ÁÂÀ©╣║╗╝¢¥┐" ++
    "└┴┬├─┼ãÃ╚╔╩╦╠═╬¤ðÐÊËÈıÍÎÏ┘┌█▄¦Ì▀" ++
    "ÓßÔÒõÕµþÞÚÛÙýÝ¯´\u00ad±‗¾¶§÷¸°¨·¹³²■\u00a0"

def cp852 : CodePage where
  upper :=
    "ÇüéâäůćçłëŐőîŹÄĆÉĹĺôöĽľŚśÖÜŤťŁ×č" ++
    "áíóúĄąŽžĘę¬źČş«»░▒▓│┤ÁÂĚŞ╣║╗╝Żż┐" ++
    "└┴┬├─┼Ăă╚╔╩╦╠═╬¤đĐĎËďŇÍÎě┘┌█▄ŢŮ▀" ++
    "ÓßÔŃńňŠšŔÚŕŰýÝţ´\u00ad˝˛ˇ˘§÷¸°¨˙űŘř■\u00a0"

def cp855 : CodePage where
  upper :=
    "ђЂѓЃёЁєЄѕЅіІїЇјЈљЉњЊћЋќЌўЎџЏюЮъЪ" ++
    "аАбБцЦдДеЕфФгГ«»░▒▓│┤хХиИ╣║╗╝йЙ┐" ++
    "└┴┬├─┼кК╚╔╩╦╠═╬¤лЛмМнНоОп┘┌█▄Пя▀" ++
    "ЯрРсСтТуУжЖвВьЬ№\u00adыЫзЗшШэЭщЩчЧ§■\u00a0"

def cp856 : CodePage where
  upper :=
    "\u05d0\u05d1\u05d2\u05d3\u05d4\u05d5\u05d6\u05d7\u05d8\u05d9\u05da\u05db\u05dc\u05dd" ++
    "\u05de\u05df\u05e0\u05e1\u05e2\u05e3\u05e4\u05e5\u05e6\u05e7\u05e8\u05e9\u05ea�" ++
    "£�×����������®" ++
    "¬½¼�«»░▒▓│┤���" ++
    "©╣║╗╝¢¥┐└┴┬├─┼" ++
    "��╚╔╩╦╠═╬¤����" ++
    "�����┘┌█▄¦�▀��" ++
    "����µ�������¯´" ++
    "\u00ad±‗¾¶§÷¸°¨·¹³²" ++
    "■\u00a0"

def cp857 : CodePage where
  upper :=
    "ÇüéâäàåçêëèïîıÄÅÉæÆôöòûùİÖÜø£ØŞş" ++
    "áíóúñÑĞğ¿®¬½¼¡«»░▒▓│┤ÁÂÀ©╣║╗╝¢¥┐" ++
    "└┴┬├─┼ãÃ╚╔╩╦╠═╬¤ºªÊËÈ�ÍÎÏ┘┌█▄¦Ì▀" ++
    "ÓßÔÒõÕµ�×ÚÛÙìÿ¯´\u00ad±�¾¶§÷¸°¨·¹³²■\u00a0"

def cp858 : CodePage where
  upper :=
    "ÇüéâäàåçêëèïîìÄÅÉæÆôöòûùÿÖÜø£Ø×ƒ" ++
    "áíóúñÑªº¿®¬½¼¡«»░▒▓│┤ÁÂÀ©╣║╗╝¢¥┐" ++
    "└┴┬├─┼ãÃ╚╔╩╦╠═╬¤ðÐÊËÈ€ÍÎÏ┘┌█▄¦Ì▀" ++
    "ÓßÔÒõÕµþÞÚÛÙýÝ¯´\u00ad±‗¾¶§÷¸°¨·¹³²■\u00a0"

def cp860 : CodePage where
  upper :=
    "ÇüéâãàÁçêÊèÍÔìÃÂÉÀÈôõòÚùÌÕÜ¢£Ù₧Ó" ++
    "áíóúñÑªº¿Ò¬½¼¡«»░▒▓│┤╡╢╖╕╣║╗╝╜╛┐" ++
    "└┴┬├─┼╞╟╚╔╩╦╠═╬╧╨╤╥╙╘╒╓╫╪┘┌█▄▌▐▀" ++
    "αßΓπΣσµτΦΘΩδ∞φε∩≡±≥≤⌠⌡÷≈°∙·√ⁿ²■\u00a0"

def cp861 : CodePage where
  upper :=
    "ÇüéâäàåçêëèÐðÞÄÅÉæÆôöþûÝýÖÜø£Ø₧ƒ" ++
    "áíóúÁÍÓÚ¿⌐¬½¼¡«»░▒▓│┤╡╢╖╕╣║╗╝╜╛┐" ++
    "└┴┬├─┼╞╟╚╔╩╦╠═╬╧╨╤╥╙╘╒╓╫╪┘┌█▄▌▐▀" ++
    "αßΓπΣσµτΦΘΩδ∞φε∩≡±≥≤⌠⌡÷≈°∙·√ⁿ²■\u00a0"

def cp862 : CodePage where
  upper :=
    "\u05d0\u05d1\u05d2\u05d3\u05d4\u05d5\u05d6\u05d7\u05d8\u05d9\u05da\u05db\u05dc\u05dd" ++
    "\u05de\u05df\u05e0\u05e1\u05e2\u05e3\u05e4\u05e5\u05e6\u05e7\u05e8\u05e9\u05ea¢" ++
    "£¥₧ƒáíóúñÑªº¿⌐" ++
    "¬½¼¡«»░▒▓│┤╡╢╖" ++
    "╕╣║╗╝╜╛┐└┴┬├─┼" ++
    "╞╟╚╔╩╦╠═╬╧╨╤╥╙" ++
    "╘╒╓╫╪┘┌█▄▌▐▀αß" ++
    "ΓπΣσµτΦΘΩδ∞φε∩" ++
    "≡±≥≤⌠⌡÷≈°∙·√ⁿ²" ++
    "■\u00a0"

def cp863 : CodePage where
  upper :=
    "ÇüéâÂà¶çêëèïî‗À§ÉÈÊôËÏûù¤ÔÜ¢£ÙÛƒ" ++
    "¦´óú¨¸³¯Î⌐¬½¼¾«»░▒▓│┤╡╢╖╕╣║╗╝╜╛┐" ++
    "└┴┬├─┼╞╟╚╔╩╦╠═╬╧╨╤╥╙╘╒╓╫╪┘┌█▄▌▐▀" ++
    "αßΓπΣσµτΦΘΩδ∞φε∩≡±≥≤⌠⌡÷≈°∙·√ⁿ²■\u00a0"

def cp865 : CodePage where
  upper :=
    "ÇüéâäàåçêëèïîìÄÅÉæÆôöòûùÿÖÜø£Ø₧ƒ" ++
    "áíóúñÑªº¿⌐¬½¼¡«¤░▒▓│┤╡╢╖╕╣║╗╝╜╛┐" ++
    "└┴┬├─┼╞╟╚╔╩╦╠═╬╧╨╤╥╙╘╒╓╫╪┘┌█▄▌▐▀" ++
    "αßΓπΣσµτΦΘΩδ∞φε∩≡±≥≤⌠⌡÷≈°∙·√ⁿ²■\u00a0"

def cp866 : CodePage where
  upper :=
    "АБВГДЕЖЗИЙКЛМНОПРСТУФХЦЧШЩЪЫЬЭЮЯ" ++
    "абвгдежзийклмноп░▒▓│┤╡╢╖╕╣║╗╝╜╛┐" ++
    "└┴┬├─┼╞╟╚╔╩╦╠═╬╧╨╤╥╙╘╒╓╫╪┘┌█▄▌▐▀" ++
    "рстуфхцчшщъыьэюяЁёЄєЇїЎў°∙·√№¤■\u00a0"

def cp869 : CodePage where
  upper :=
    "������Ά�·¬¦‘’Έ―ΉΊΪΌ��ΎΫ©Ώ²³ά£έήί" ++
    "ϊΐόύΑΒΓΔΕΖΗ½ΘΙ«»░▒▓│┤ΚΛΜΝ╣║╗╝ΞΟ┐" ++
    "└┴┬├─┼ΠΡ╚╔╩╦╠═╬ΣΤΥΦΧΨΩαβγ┘┌█▄δε▀" ++
    "ζηθικλμνξοπρσςτ΄\u00ad±υφχ§ψ΅°¨ωϋΰώ■\u00a0"

def cp874 : CodePage where
  upper :=
    "€����…�����������‘’“”•–—��������" ++
    "\u00a0กขฃคฅฆงจฉชซฌญฎฏฐฑฒณดตถทธนบปผฝพฟ" ++
    "ภมยรฤลฦวศษสหฬอฮฯะ\u0e31าำ\u0e34\u0e35\u0e36\u0e37\u0e38\u0e39\u0e3a����฿" ++
    "เแโใไๅๆ\u0e47\u0e48\u0e49\u0e4a\u0e4b\u0e4c\u0e4d\u0e4e๏๐๑๒๓๔๕๖๗๘๙๚๛����"

def iso8859_10 : CodePage where
  upper :=
    "\u0080\u0081\u0082\u0083\u0084\u0085\u0086\u0087\u0088\u0089\u008a\u008b\u008c\u008d" ++
    "\u008e\u008f\u0090\u0091\u0092\u0093\u0094\u0095\u0096\u0097\u0098\u0099\u009a\u009b" ++
    "\u009c\u009d\u009e\u009f\u00a0ĄĒĢĪĨĶ§ĻĐ" ++
    "ŠŦŽ\u00adŪŊ°ąēģīĩķ·" ++
    "ļđšŧž―ūŋĀÁÂÃÄÅ" ++
    "ÆĮČÉĘËĖÍÎÏÐŅŌÓ" ++
    "ÔÕÖŨØŲÚÛÜÝÞßāá" ++
    "âãäåæįčéęëėíîï" ++
    "ðņōóôõöũøųúûüý" ++
    "þĸ"

def iso8859_11 : CodePage where
  upper :=
    "\u0080\u0081\u0082\u0083\u0084\u0085\u0086\u0087\u0088\u0089\u008a\u008b\u008c\u008d" ++
    "\u008e\u008f\u0090\u0091\u0092\u0093\u0094\u0095\u0096\u0097\u0098\u0099\u009a\u009b" ++
    "\u009c\u009d\u009e\u009f\u00a0กขฃคฅฆงจฉ" ++
    "ชซฌญฎฏฐฑฒณดตถท" ++
    "ธนบปผฝพฟภมยรฤล" ++
    "ฦวศษสหฬอฮฯะ\u0e31าำ" ++
    "\u0e34\u0e35\u0e36\u0e37\u0e38\u0e39\u0e3a����฿เแ" ++
    "โใไๅๆ\u0e47\u0e48\u0e49\u0e4a\u0e4b\u0e4c\u0e4d\u0e4e๏" ++
    "๐๑๒๓๔๕๖๗๘๙๚๛��" ++
    "��"

def iso8859_13 : CodePage where
  upper :=
    "\u0080\u0081\u0082\u0083\u0084\u0085\u0086\u0087\u0088\u0089\u008a\u008b\u008c\u008d" ++
    "\u008e\u008f\u0090\u0091\u0092\u0093\u0094\u0095\u0096\u0097\u0098\u0099\u009a\u009b" ++
    "\u009c\u009d\u009e\u009f\u00a0”¢£¤„¦§Ø©" ++
    "Ŗ«¬\u00ad®Æ°±²³“µ¶·" ++
    "ø¹ŗ»¼½¾æĄĮĀĆÄÅ" ++
    "ĘĒČÉŹĖĢĶĪĻŠŃŅÓ" ++
    "ŌÕÖ×ŲŁŚŪÜŻŽßąį" ++
    "āćäåęēčéźėģķīļ" ++
    "šńņóōõö÷ųłśūüż" ++
    "ž’"

def iso8859_14 : CodePage where
  upper :=
    "\u0080\u0081\u0082\u0083\u0084\u0085\u0086\u0087\u0088\u0089\u008a\u008b\u008c\u008d" ++
    "\u008e\u008f\u0090\u0091\u0092\u0093\u0094\u0095\u0096\u0097\u0098\u0099\u009a\u009b" ++
    "\u009c\u009d\u009e\u009f\u00a0Ḃḃ£ĊċḊ§Ẁ©" ++
    "ẂḋỲ\u00ad®ŸḞḟĠġṀṁ¶Ṗ" ++
    "ẁṗẃṠỳẄẅṡÀÁÂÃÄÅ" ++
    "ÆÇÈÉÊËÌÍÎÏŴÑÒÓ" ++
    "ÔÕÖṪØÙÚÛÜÝŶßàá" ++
    "âãäåæçèéêëìíîï" ++
    "ŵñòóôõöṫøùúûüý" ++
    "ŷÿ"

def iso8859_15 : CodePage where
  upper :=
    "\u0080\u0081\u0082\u0083\u0084\u0085\u0086\u0087\u0088\u0089\u008a\u008b\u008c\u008d" ++
    "\u008e\u008f\u0090\u0091\u0092\u0093\u0094\u0095\u0096\u0097\u0098\u0099\u009a\u009b" ++
    "\u009c\u009d\u009e\u009f\u00a0¡¢£€¥Š§š©" ++
    "ª«¬\u00ad®¯°±²³Žµ¶·" ++
    "ž¹º»ŒœŸ¿ÀÁÂÃÄÅ" ++
    "ÆÇÈÉÊËÌÍÎÏÐÑÒÓ" ++
    "ÔÕÖ×ØÙÚÛÜÝÞßàá" ++
    "âãäåæçèéêëìíîï" ++
    "ðñòóôõö÷øùúûüý" ++
    "þÿ"

def iso8859_16 : CodePage where
  upper :=
    "\u0080\u0081\u0082\u0083\u0084\u0085\u0086\u0087\u0088\u0089\u008a\u008b\u008c\u008d" ++
    "\u008e\u008f\u0090\u0091\u0092\u0093\u0094\u0095\u0096\u0097\u0098\u0099\u009a\u009b" ++
    "\u009c\u009d\u009e\u009f\u00a0ĄąŁ€„Š§š©" ++
    "Ș«Ź\u00adźŻ°±ČłŽ”¶·" ++
    "žčș»ŒœŸżÀÁÂĂÄĆ" ++
    "ÆÇÈÉÊËÌÍÎÏĐŃÒÓ" ++
    "ÔŐÖŚŰÙÚÛÜĘȚßàá" ++
    "âăäćæçèéêëìíîï" ++
    "đńòóôőöśűùúûüę" ++
    "țÿ"

def iso8859_2 : CodePage where
  upper :=
    "\u0080\u0081\u0082\u0083\u0084\u0085\u0086\u0087\u0088\u0089\u008a\u008b\u008c\u008d" ++
    "\u008e\u008f\u0090\u0091\u0092\u0093\u0094\u0095\u0096\u0097\u0098\u0099\u009a\u009b" ++
    "\u009c\u009d\u009e\u009f\u00a0Ą˘Ł¤ĽŚ§¨Š" ++
    "ŞŤŹ\u00adŽŻ°ą˛ł´ľśˇ" ++
    "¸šşťź˝žżŔÁÂĂÄĹ" ++
    "ĆÇČÉĘËĚÍÎĎĐŃŇÓ" ++
    "ÔŐÖ×ŘŮÚŰÜÝŢßŕá" ++
    "âăäĺćçčéęëěíîď" ++
    "đńňóôőö÷řůúűüý" ++
    "ţ˙"

def iso8859_3 : CodePage where
  upper :=
    "\u0080\u0081\u0082\u0083\u0084\u0085\u0086\u0087\u0088\u0089\u008a\u008b\u008c\u008d" ++
    "\u008e\u008f\u0090\u0091\u0092\u0093\u0094\u0095\u0096\u0097\u0098\u0099\u009a\u009b" ++
    "\u009c\u009d\u009e\u009f\u00a0Ħ˘£¤�Ĥ§¨İ" ++
    "ŞĞĴ\u00ad�Ż°ħ²³´µĥ·" ++
    "¸ışğĵ½�żÀÁÂ�ÄĊ" ++
    "ĈÇÈÉÊËÌÍÎÏ�ÑÒÓ" ++
    "ÔĠÖ×ĜÙÚÛÜŬŜßàá" ++
    "â�äċĉçèéêëìíîï" ++
    "�ñòóôġö÷ĝùúûüŭ" ++
    "ŝ˙"

def iso8859_4 : CodePage where
  upper :=
    "\u0080\u0081\u0082\u0083\u0084\u0085\u0086\u0087\u0088\u0089\u008a\u008b\u008c\u008d" ++
    "\u008e\u008f\u0090\u0091\u0092\u0093\u0094\u0095\u0096\u0097\u0098\u0099\u009a\u009b" ++
    "\u009c\u009d\u009e\u009f\u00a0ĄĸŖ¤ĨĻ§¨Š" ++
    "ĒĢŦ\u00adŽ¯°ą˛ŗ´ĩļˇ" ++
    "¸šēģŧŊžŋĀÁÂÃÄÅ" ++
    "ÆĮČÉĘËĖÍÎĪĐŅŌĶ" ++
    "ÔÕÖ×ØŲÚÛÜŨŪßāá" ++
    "âãäåæįčéęëėíîī" ++
    "đņōķôõö÷øųúûüũ" ++
    "ū˙"

def iso8859_5 : CodePage where
  upper :=
    "\u0080\u0081\u0082\u0083\u0084\u0085\u0086\u0087\u0088\u0089\u008a\u008b\u008c\u008d" ++
    "\u008e\u008f\u0090\u0091\u0092\u0093\u0094\u0095\u0096\u0097\u0098\u0099\u009a\u009b" ++
    "\u009c\u009d\u009e\u009f\u00a0ЁЂЃЄЅІЇЈЉ" ++
    "ЊЋЌ\u00adЎЏАБВГДЕЖЗ" ++
    "ИЙКЛМНОПРСТУФХ" ++
    "ЦЧШЩЪЫЬЭЮЯабвг" ++
    "дежзийклмнопрс" ++
    "туфхцчшщъыьэюя" ++
    "№ёђѓєѕіїјљњћќ§" ++
    "ўџ"

def iso8859_6 : CodePage where
  upper :=
    "\u0080\u0081\u0082\u0083\u0084\u0085\u0086\u0087\u0088\u0089\u008a\u008b\u008c\u008d" ++
    "\u008e\u008f\u0090\u0091\u0092\u0093\u0094\u0095\u0096\u0097\u0098\u0099\u009a\u009b" ++
    "\u009c\u009d\u009e\u009f\u00a0���¤�����" ++
    "��،\u00ad����������" ++
    "���\u061b���\u061f�\u0621\u0622\u0623\u0624\u0625" ++
    "\u0626\u0627\u0628\u0629\u062a\u062b\u062c\u062d\u062e\u062f\u0630\u0631\u0632\u0633" ++
    "\u0634\u0635\u0636\u0637\u0638\u0639\u063a�����\u0640\u0641" ++
    "\u0642\u0643\u0644\u0645\u0646\u0647\u0648\u0649\u064a\u064b\u064c\u064d\u064e\u064f" ++
    "\u0650\u0651\u0652�����������" ++
    "��"

def iso8859_7 : CodePage where
  upper :=
    "\u0080\u0081\u0082\u0083\u0084\u0085\u0086\u0087\u0088\u0089\u008a\u008b\u008c\u008d" ++
    "\u008e\u008f\u0090\u0091\u0092\u0093\u0094\u0095\u0096\u0097\u0098\u0099\u009a\u009b" ++
    "\u009c\u009d\u009e\u009f\u00a0‘’£€₯¦§¨©" ++
    "ͺ«¬\u00ad�―°±²³΄΅Ά·" ++
    "ΈΉΊ»Ό½ΎΏΐΑΒΓΔΕ" ++
    "ΖΗΘΙΚΛΜΝΞΟΠΡ�Σ" ++
    "ΤΥΦΧΨΩΪΫάέήίΰα" ++
    "βγδεζηθικλμνξο" ++
    "πρςστυφχψωϊϋόύ" ++
    "ώ�"

def iso8859_8 : CodePage where
  upper :=
    "\u0080\u0081\u0082\u0083\u0084\u0085\u0086\u0087\u0088\u0089\u008a\u008b\u008c\u008d" ++
    "\u008e\u008f\u0090\u0091\u0092\u0093\u0094\u0095\u0096\u0097\u0098\u0099\u009a\u009b" ++
    "\u009c\u009d\u009e\u009f\u00a0�¢£¤¥¦§¨©" ++
    "×«¬\u00ad®¯°±²³´µ¶·" ++
    "¸¹÷»¼½¾�������" ++
    "��������������" ++
    "�����������‗\u05d0\u05d1" ++
    "\u05d2\u05d3\u05d4\u05d5\u05d6\u05d7\u05d8\u05d9\u05da\u05db\u05dc\u05dd\u05de\u05df" ++
    "\u05e0\u05e1\u05e2\u05e3\u05e4\u05e5\u05e6\u05e7\u05e8\u05e9\u05ea��\u200e" ++
    "\u200f�"

def iso8859_9 : CodePage where
  upper :=
    "\u0080\u0081\u0082\u0083\u0084\u0085\u0086\u0087\u0088\u0089\u008a\u008b\u008c\u008d" ++
    "\u008e\u008f\u0090\u0091\u0092\u0093\u0094\u0095\u0096\u0097\u0098\u0099\u009a\u009b" ++
    "\u009c\u009d\u009e\u009f\u00a0¡¢£¤¥¦§¨©" ++
    "ª«¬\u00ad®¯°±²³´µ¶·" ++
    "¸¹º»¼½¾¿ÀÁÂÃÄÅ" ++
    "ÆÇÈÉÊËÌÍÎÏĞÑÒÓ" ++
    "ÔÕÖ×ØÙÚÛÜİŞßàá" ++
    "âãäåæçèéêëìíîï" ++
    "ğñòóôõö÷øùúûüı" ++
    "şÿ"

def koi8R : CodePage where
  upper :=
    "─│┌┐└┘├┤┬┴┼▀▄█▌▐░▒▓⌠■∙√≈≤≥\u00a0⌡°²·÷" ++
    "═║╒ё╓╔╕╖╗╘╙╚╛╜╝╞╟╠╡Ё╢╣╤╥╦╧╨╩╪╫╬©" ++
    "юабцдефгхийклмнопярстужвьызшэщчъ" ++
    "ЮАБЦДЕФГХИЙКЛМНОПЯРСТУЖВЬЫЗШЭЩЧЪ"

def koi8T : CodePage where
  upper :=
    "қғ‚Ғ„…†‡�‰ҳ‹ҲҷҶ�Қ‘’“”•–—�™�›����" ++
    "�ӯӮё¤ӣ¦§���«¬\u00ad®�°±²Ё�Ӣ¶·�№�»���©" ++
    "юабцдефгхийклмнопярстужвьызшэщчъ" ++
    "ЮАБЦДЕФГХИЙКЛМНОПЯРСТУЖВЬЫЗШЭЩЧЪ"

def koi8U : CodePage where
  upper :=
    "─│┌┐└┘├┤┬┴┼▀▄█▌▐░▒▓⌠■∙√≈≤≥\u00a0⌡°²·÷" ++
    "═║╒ёє╔ії╗╘╙╚╛ґ╝╞╟╠╡ЁЄ╣ІЇ╦╧╨╩╪Ґ╬©" ++
    "юабцдефгхийклмнопярстужвьызшэщчъ" ++
    "ЮАБЦДЕФГХИЙКЛМНОПЯРСТУЖВЬЫЗШЭЩЧЪ"

def kz1048 : CodePage where
  upper :=
    "ЂЃ‚ѓ„…†‡€‰Љ‹ЊҚҺЏђ‘’“”•–—�™љ›њқһџ" ++
    "\u00a0ҰұӘ¤Ө¦§Ё©Ғ«¬\u00ad®Ү°±Ііөµ¶·ё№ғ»әҢңү" ++
    "АБВГДЕЖЗИЙКЛМНОПРСТУФХЦЧШЩЪЫЬЭЮЯ" ++
    "абвгдежзийклмнопрстуфхцчшщъыьэюя"

def macCroatian : CodePage where
  upper :=
    "ÄÅÇÉÑÖÜáàâäãåçéèêëíìîïñóòôöõúùûü" ++
    "†°¢£§•¶ß®Š™´¨≠ŽØ∞±≤≥∆µ∂∑∏š∫ªºΩžø" ++
    "¿¡¬√ƒ≈Ć«Č…\u00a0ÀÃÕŒœĐ—“”‘’÷◊\uf8ff©⁄€‹›Æ»" ++
    "–·‚„‰ÂćÁčÈÍÎÏÌÓÔđÒÚÛÙıˆ˜¯πË˚¸Êæˇ"

def macCyrillic : CodePage where
  upper :=
    "АБВГДЕЖЗИЙКЛМНОПРСТУФХЦЧШЩЪЫЬЭЮЯ" ++
    "†°Ґ£§•¶І®©™Ђђ≠Ѓѓ∞±≤≥іµґЈЄєЇїЉљЊњ" ++
    "јЅ¬√ƒ≈∆«»…\u00a0ЋћЌќѕ–—“”‘’÷„ЎўЏџ№Ёёя" ++
    "абвгдежзийклмнопрстуфхцчшщъыьэю€"

def macGreek : CodePage where
  upper :=
    "Ä¹²É³ÖÜ΅àâä΄¨çéèêë£™îï•½‰ôö¦€ùûü" ++
    "†ΓΔΘΛΞΠß®©ΣΪ§≠°·Α±≤≥¥ΒΕΖΗΙΚΜΦΫΨΩ" ++
    "άΝ¬ΟΡ≈Τ«»…\u00a0ΥΧΆΈœ–―“”‘’÷ΉΊΌΎέήίόΏ" ++
    "ύαβψδεφγηιξκλμνοπώρστθωςχυζϊϋΐΰ\u00ad"

def macIceland : CodePage where
  upper :=
    "ÄÅÇÉÑÖÜáàâäãåçéèêëíìîïñóòôöõúùûü" ++
    "Ý°¢£§•¶ß®©™´¨≠ÆØ∞±≤≥¥µ∂∑∏π∫ªºΩæø" ++
    "¿¡¬√ƒ≈∆«»…\u00a0ÀÃÕŒœ–—“”‘’÷◊ÿŸ⁄€ÐðÞþ" ++
    "ý·‚„‰ÂÊÁËÈÍÎÏÌÓÔ\uf8ffÒÚÛÙıˆ˜¯˘˙˚¸˝˛ˇ"

def macLatin2 : CodePage where
  upper :=
    "ÄĀāÉĄÖÜáąČäčĆćéŹźĎíďĒēĖóėôöõúĚěü" ++
    "†°Ę£§•¶ß®©™ę¨≠ģĮįĪ≤≥īĶ∂∑łĻļĽľĹĺŅ" ++
    "ņŃ¬√ńŇ∆«»…\u00a0ňŐÕőŌ–—“”‘’÷◊ōŔŕŘ‹›řŖ" ++
    "ŗŠ‚„šŚśÁŤťÍŽžŪÓÔūŮÚůŰűŲųÝýķŻŁżĢˇ"

def macRoman : CodePage where
  upper :=
    "ÄÅÇÉÑÖÜáàâäãåçéèêëíìîïñóòôöõúùûü" ++
    "†°¢£§•¶ß®©™´¨≠ÆØ∞±≤≥¥µ∂∑∏π∫ªºΩæø" ++
    "¿¡¬√ƒ≈∆«»…\u00a0ÀÃÕŒœ–—“”‘’÷◊ÿŸ⁄€‹›ﬁﬂ" ++
    "‡·‚„‰ÂÊÁËÈÍÎÏÌÓÔ\uf8ffÒÚÛÙıˆ˜¯˘˙˚¸˝˛ˇ"

def macRomanian : CodePage where
  upper :=
    "ÄÅÇÉÑÖÜáàâäãåçéèêëíìîïñóòôöõúùûü" ++
    "†°¢£§•¶ß®©™´¨≠ĂȘ∞±≤≥¥µ∂∑∏π∫ªºΩăș" ++
    "¿¡¬√ƒ≈∆«»…\u00a0ÀÃÕŒœ–—“”‘’÷◊ÿŸ⁄€‹›Țț" ++
    "‡·‚„‰ÂÊÁËÈÍÎÏÌÓÔ\uf8ffÒÚÛÙıˆ˜¯˘˙˚¸˝˛ˇ"

def macTurkish : CodePage where
  upper :=
    "ÄÅÇÉÑÖÜáàâäãåçéèêëíìîïñóòôöõúùûü" ++
    "†°¢£§•¶ß®©™´¨≠ÆØ∞±≤≥¥µ∂∑∏π∫ªºΩæø" ++
    "¿¡¬√ƒ≈∆«»…\u00a0ÀÃÕŒœ–—“”‘’÷◊ÿŸĞğİıŞş" ++
    "‡·‚„‰ÂÊÁËÈÍÎÏÌÓÔ\uf8ffÒÚÛÙ\uf8a0ˆ˜¯˘˙˚¸˝˛ˇ"

def palmos : CodePage where
  upper :=
    "€\u0081‚ƒ„…†‡ˆ‰Š‹Œ♦♣♥♠‘’“”•–—˜™š\u009bœ\u009d\u009eŸ" ++
    "\u00a0¡¢£¤¥¦§¨©ª«¬\u00ad®¯°±²³´µ¶·¸¹º»¼½¾¿" ++
    "ÀÁÂÃÄÅÆÇÈÉÊËÌÍÎÏÐÑÒÓÔÕÖ×ØÙÚÛÜÝÞß" ++
    "àáâãäåæçèéêëìíîïðñòóôõö÷øùúûüýþÿ"

def tis620 : CodePage where
  upper :=
    "\u0080\u0081\u0082\u0083\u0084\u0085\u0086\u0087\u0088\u0089\u008a\u008b\u008c\u008d" ++
    "\u008e\u008f\u0090\u0091\u0092\u0093\u0094\u0095\u0096\u0097\u0098\u0099\u009a\u009b" ++
    "\u009c\u009d\u009e\u009f�กขฃคฅฆงจฉ" ++
    "ชซฌญฎฏฐฑฒณดตถท" ++
    "ธนบปผฝพฟภมยรฤล" ++
    "ฦวศษสหฬอฮฯะ\u0e31าำ" ++
    "\u0e34\u0e35\u0e36\u0e37\u0e38\u0e39\u0e3a����฿เแ" ++
    "โใไๅๆ\u0e47\u0e48\u0e49\u0e4a\u0e4b\u0e4c\u0e4d\u0e4e๏" ++
    "๐๑๒๓๔๕๖๗๘๙๚๛��" ++
    "��"

end CodePage

end CardPress.Xml
