namespace Highlight.Text.CharacterName

def aliases : String := "
=0,NUL,=0,NULL,SOH,=1,START OF HEADING,bTEXT,=2,STX,END OF TEXT,=3,ETX,END OF TRANSMISSION,=4,EOT,
ENQ,=5,ENQUIRY,ACK,=6,ACKNOWLEDGE,ALERT,=7,BEL,BACKSPACE,=8,BS,CHARACTER TABULATION,=9,HORIZONTALa,
=9,HT,=9,TAB,END OF LINE,=A,EOL,=A,LF,=A,LINE FEED,=A,NEW LINE,=A,NL,LINE TABULATION,=B,VERTICALa,
=B,VT,FF,=C,FORM FEED,CARRIAGE RETURN,=D,CR,LOCKING-SHIFT ONE,=E,SHIFT OUT,=E,SO,
LOCKING-SHIFT ZERO,=F,SHIFT IN,=F,SI,DATA LINK ESCAPE,=10,DLE,DC1,=11,DEVICE CONTROL ONE,DC2,=12,
DEVICE CONTROL TWO,DC3,=13,DEVICE CONTROL THREE,DC4,=14,DEVICE CONTROL FOUR,NAK,=15,
NEGATIVE ACKNOWLEDGE,SYN,=16,SYNCHRONOUS IDLE,END OF TRANSMISSION BLOCK,=17,ETB,CAN,=18,CANCEL,
END OF MEDIUM,=19,EOM,SUB,=1A,SUBSTITUTE,ESC,=1B,ESCAPE,FILE SEPARATOR,=1C,FS,=1C,
INFORMATION SEPARATOR FOUR,GROUP SEPARATOR,=1D,GS,=1D,INFORMATION SEPARATOR THREE,bTWO,=1E,
RECORD SEPARATOR,=1E,RS,INFORMATION SEPARATOR ONE,=1F,UNIT SEPARATOR,=1F,US,SP,=7F,DEL,=7F,DELETE,
PAD,=80,PADDING CHARACTER,HIGH OCTET PRESET,=81,HOP,BPH,=82,BREAK PERMITTED HERE,NBH,=83,
NO BREAK HERE,IND,=84,INDEX,NEL,=85,NEXT LINE,SSA,=86,START OF SELECTED AREA,ENDc,=87,ESA,
CHARACTER TABULATION SET,=88,HORIZONTALb,=88,HTS,CHARACTER TABULATION WITH JUSTIFICATION,=89,
HORIZONTALc,=89,HTJ,LINE TABULATION SET,=8A,VERTICALb,=8A,VTS,PARTIAL LINE DOWN,=8B,bFORWARD,=8B,
PLD,PARTIAL LINE BACKWARD,=8C,bUP,=8C,PLU,REVERSE INDEX,=8D,aLINE FEED,=8D,RI,SINGLE SHIFT TWO,=8E,
SINGLE-SHIFT-2,=8E,SS2,SINGLE SHIFT THREE,=8F,SINGLE-SHIFT-3,=8F,SS3,DCS,=90,DEVICE CONTROL STRING,
PRIVATE USE ONE,=91,aUSE-1,=91,PU1,PRIVATE USE TWO,=92,aUSE-2,=92,PU2,SET TRANSMIT STATE,=93,STS,
CANCEL CHARACTER,=94,CCH,MESSAGE WAITING,=95,MW,SPA,=96,START OF GUARDED AREA,=96,bPROTECTEDa,
END OF GUARDEDa,=97,bPROTECTEDa,=97,EPA,SOS,=98,START OF STRING,SGC,=99,
SINGLE GRAPHIC CHARACTER INTRODUCER,SCI,=9A,SINGLE CHARACTER INTRODUCER,CONTROL SEQUENCEa,=9B,CSI,
ST,=9C,STRING TERMINATOR,OPERATING SYSTEM COMMAND,=9D,OSC,PM,=9E,PRIVACY MESSAGE,APC,=9F,
APPLICATION PROGRAM COMMAND,NBSP,=AD,SHY,=1A2,LATIN CAPITAL LETTER GHA,aSMALLb,=34F,CGJ,=61C,ALM,
=709,SYRIAC SUBLINEAR COLON SKEWED LEFT,=CDE,KANNADA LETTER LLLA,=E9D,LAO LETTER FO FON,=E9F,cFAY,
=EA3,bRO,=EA5,bLO,=FD0,TIBETAN MARK BKA- SHOG GI MGO RGYAN,=11EC,HANGUL JONGSEONG YESIEUNG-KIYEOK,
bYESIEUNG-SSANGKIYEOK,bSSANGYESIEUNG,bYESIEUNG-KHIEUKH,=180B,FVS1,FVS2,FVS3,MVS,FVS4,=200B,ZWSP,
ZWNJ,ZWJ,LRM,RLM,=202A,LRE,RLE,PDF,LRO,RLO,NNBSP,=205F,MMSP,WJ,=2066,LRI,RLI,FSI,PDI,=2118,
WEIERSTRASS ELLIPTIC FUNCTION,=2448,MICR ON US SYMBOL,aDASHa,=2B7A,
LEFTWARDS TRIANGLE-HEADED ARROW WITH DOUBLE VERTICAL STROKE,=2B7C,RIGHTWARDSf,=A015,
YI SYLLABLE ITERATION MARK,=AA6E,MYANMAR LETTER KHAMTI LLA,=FE18,
PRESENTATION FORM FOR VERTICAL RIGHT WHITE LENTICULAR BRACKET,=FEFF,BOM,=FEFF,BYTE ORDER MARK,
=FEFF,ZWNBSP,=122D4,CUNEIFORM SIGN NU11 TENU,cOVER NU11 BUR OVER BUR,=16E56,
MEDEFAIDRIN CAPITAL LETTER H,cNG,=16E76,aSMALL LETTER H,cNG,=1B001,HENTAIGANA LETTER E-1,=1D0C5,
BYZANTINE MUSICAL SYMBOL FTHORA SKLIRON CHROMA VASIS,"

end Highlight.Text.CharacterName
