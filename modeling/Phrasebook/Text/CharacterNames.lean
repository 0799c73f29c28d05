/-!
# The names of characters

The names of all characters in the order of the alphabet, but for those of syllables and ideographs
that a rule makes. Each name is written by what sets it apart from the name before: a small letter
takes characters off the end of that, none for an `a`, one for a `b` and so on, and then others are
added. Line ends do not count.
-/

namespace Phrasebook.Text

def characterNames : String :=
"aABACUSfC CURRENTiCORDIONfUNT OFiKaNOWLEDGEjTIVATE ARABIC FORM SHAPINGtSYMMETRIC SWAPPINGzaUTE ACC
ENTfNGLEkDDRESSED TO THE SUBJECTwHESIVE BANDAGEoI SHAKTIiLAM ALIF LENGTHENERpCAPITAL LETTER ALIFeB
AbHEdCHIdDAALIeHAdEbFAcGAbBEdHAcIbJIIMeKAFcHAcPOdLAAMeMIIMeNHAcUNcYAdObPEcQAAFeRAcSHAcINNYIIYHEkTU
cUbVAcWAWdYAbHEdZALrONSONANT MODIFIERsDIGIT EIGHTfFIVEdOUReNINEeONEdSEVENeIXdTHREEeWOdZEROkGEMINAT
E CONSONANT MODIFIERuION MARKpHAMZAfINITIAL EXCLAMATION MARKqQUESTION MARKvNASALIZATION MARKqUKTAf
SMALL LETTER ALIFeBAbHEdCHIdDAALIeHAdEbFAcGAbBEdHAcIbJIIMeKAFcHAcPOdLAAMeMIIMeNHAcUNcYAdObPEcQAAFe
RAcSHAcINNYIIYHEkTUcUbVAcWAWdYAbHEdZALqVOWEL LENGTHENERuMETOSeISSION TICKETSpULTeEGEAN CHECK MARKk
DRY MEASURE FIRST SUBUNITzaLIQUID MEASURE FIRST SUBUNITzdMEASURE SECOND SUBUNIToTHIRD SUBUNITvNUMB
ER EIGHTa HUNDREDhTHOUSANDjYa THOUSANDpFIFTYa THOUSANDmVEa HUNDREDhTHOUSANDmORTYa THOUSANDmURa HUN
DREDhTHOUSANDnNINEa HUNDREDhTHOUSANDjTYa THOUSANDpONEa HUNDREDhTHOUSANDmSEVENa HUNDREDhTHOUSANDjTY
a THOUSANDpIXa HUNDREDhTHOUSANDjTYa THOUSANDoTENa THOUSANDlHIRTYa THOUSANDnREEa HUNDREDhTHOUSANDnW
ENTYa THOUSANDnOa HUNDREDhTHOUSANDtWEIGHT BASE UNITjFIRST SUBUNITmOURTH SUBUNIToSECOND SUBUNIToTHI
RD SUBUNITtORD SEPARATOR DOTdLINEyRIAL TRAMWAYnFGHANI SIGNlHOM CONSONANT SIGN MEDIAL LAbIGATING RA
lRAyDIGIT EIGHTfFIVEdOUReNINEeONEdSEVENeIXdTHREEeWOdZEROkLETTER AaLTERNATE BAcGAcTAmBAbHAdCAbHAdDA
bDAbHAdHAdGAbHAdHAcJAbHAdKAbHAdLAbLAdMAcNAbGAcNAcYAdPAbHAdRAcSAcTAbHAcTAbHAlNUMBER TENcWENTYnSIG
N KILLERgRULAIfSECTIONgMALL SECTIONrYMBOL VIjVOWEL SIGN AaAbIbMbWcEbIaIcObUaUrIRPLANEa ARRIVINGiDE
PARTURErKTIESELSKABlLARM CLOCKjCHEMICAL SYMBOL FOR AIRcLEMBICfKALIa-2gUMdMALGAMgNTIMONY ORElQUA RE
GIAa-2hVITAEa-2iFORTISjRSENICgSHESeURIPIGMENTlBATH OF MARYeVAPOURSoISMUTH OREkLACK SULFURlORAXa-2b
3gRICKfCADUCEUSgLXcPUT MORTUUMmINNABARhOPPER ANTIMONIATElOREjROCUS OF COPPERa-2iIRONmUCIBLEa-2b3b4
b5kDAY-NIGHTiISSOLVEa-2hTILLhEARTHfFIREeGOLDdUMdHALF DRAMeOUNCEjORSE DUNGiUReIRON OREa-2g-COPPER O
REpLEAD OREhODESTONEjMARCASITEiERCURY SUBLIMATEa-2b3sONTHfNIGHTdTREfOILdPHILOSOPHERS SULFURsOT ASH
EShWDERaED BRICKnRECIPITATEkURIFYeTREFACTIONmQUICK LIMEhNTESSENCEmREALGARa-2hGULUSa OF ANTIMONYa-2
kIRONi-2b3b4hTORTfOCK SALTa-2lSAL-AMMONIACjTa OF ANTIMONYiCOPPER ANTIMONIATEzaCEPTER OF JOVEoILVER
fOAPdPIRITfTARRED TRIDENTnRATUM SUPER STRATUMa-2wUBLIMATE OF ANTIMONYiCOPPERgSALT OF ANTIMONYiCOPP
ERtIONjLFURgTARTARa-2hIN OREeCTUREhRIDENTgUTTYfURINEfVERDIGRISiINEGARa OF ANTIMONYm-2b3hTRIOLa-2jW
ATERdXxEF SYMBOLiMBICeRTdIEN MONSTERlL AROUND-PROFILEoEQUAL TOkMaOST EQUAL OR EQUAL TOlTOa WITH CI
RCUMFLEX ACCENTzlTERNATE ONE-WAY LEFT WAY TRAFFICzbIVE KEY SYMBOLvMALGAMATION OR COPRODUCTxBULANCE
hERICAN FOOTBALLpPERSANDgHORAgNATOLIAN HIEROGLYPH A001b2b3b4b5b6b7b8b9c10aAc1b2b3b4b5b6b7b8b9c20b1
b2b3b4b5b6aAc7b8b9c30b1b2b3b4b5b6b7b8b9aAd40b1aAc2b3b4b5aAc6aAbBc7b8b9c50b1b2b3b4b5b6b7b8b9c60b1b2
b3b4b5b6aAbBbCc7b8b9c70b1b2b3b4b5b6b7b8b9c80b1b2b3b4b5b6b7b8b9c90b1b2b3b4b5b6b7aAc8aAc9d100aAc1aAc
2aAc3b4aAbBbCc5aAbBc6b7aAbBbCc8b9c10aAbBc1b2b3b4b5aAc6b7b8b9c20b1b2b3b4b5aAc6b7b8b9c30b1b2b3b4b5aA
c6b7b8b9c40b1b2b3b4b5b6b7b8b9c50b1b2b3b4b5b6b7b8b9c60b1b2b3b4b5b6b7b8b9c70b1b2b3b4b5b6b7b8b9c80b1b
2b3b4b5b6b7b8b9c90b1b2b3b4b5b6b7b8b9d200b1b2aAbBc3b4b5b6b7aAc8b9aAd10b1b2b3b4b5aAc6aAc7b8b9c20b1b2
b3b4b5b6b7aAc8b9c30b1b2b3b4b5b6b7b8b9c40b1b2b3b4b5b6b7b8b9c50b1b2b3b4b5b6b7b8b9c60b1b2b3b4b5b6b7aA
c8b9c70b1b2b3b4b5b6b7b8b9c80b1b2b3b4b5b6b7b8b9aAd90b1b2b3b4aAc5b6b7b8b9aAe300b1b2b3b4b5b6b7b8b9aAd
10b1b2b3b4b5b6b7b8b9c20b1b2b3b4b5b6b7b8b9aAd30b1b2AbBbCc3b4b5b6aAbBbCc7b8b9c40b1b2b3b4b5b6b7b8b9c5
0b1b2b3b4b5b6b7b8b9aAd60b1b2b3b4aAc5b6b7b8aAc9c70b1aAc2b3b4b5b6b7b8b9c80b1aAc2b3 RA OR RIjAc4b5b6a
Ac7b8b9c90b1b2b3 EIGHTh4b5b6b7b8b9d400b1b2b3b4b5b6b7b8b9c10 BEGIN LOGOGRAM MARKuA END LOGOGRAM MAR
Ku1b2b3b4b5b6b7b8b9c20b1b2b3b4b5b6b7b8b9c30b1b2b3b4b5b6b7b8b9c40b1b2b3b4b5b6b7b8b9c50aAc1b2b3b4b5b
6b7aAc8b9c60b1b2b3b4b5b6b7b8b9c70b1b2b3b4b5b6b7b8b9c80b1b2b3b4b5b6b7b8b9c90b1b2b3b4b5b6b7d501b2b3b
4b5b6b7b8b9c10b1b2b3b4b5b6b7b8b9c20b1b2b3b4b5b6b7b8b9c30uMICAL HEARToCHOReD WITH DOTkGER SYMBOLjLE
a WITH S INSIDEiUNDERBARqRY FACEhSTROM SIGNkUISHED FACEmKHcTaENNA WITH BARSoICLOCKWISE CLOSED CIRC
LE ARROWsONTOUR INTEGRALqDOWNWARDS AND UPWARDS OPEN CIRCLE ARROWSzpGAPPED CIRCLE ARROWtINTEGRATION
lOPEN CIRCLE ARROWrTOP SEMICIRCLE ARROWtRIANGLE-HEADED BOTTOM U-SHAPED ARROWvLEFT U-SHAPED ARROWtO
PEN CIRCLE ARROWrRIGHT U-SHAPED ARROWuTOP U-SHAPED ARROWzwPCbL FUNCTIONAL SYMBOL ALPHAa UNDERBARoB
ACKSLASH BARnCIRCLE BACKSLASHjDIAERESISjJOTdSTARcILEfUNDERBARoOMMA BARjDEL DIAERESISjSTILEfTILDEgT
A STILEfUNDERBARnIAMOND UNDERBARpOWN CARET TILDElSHOE STILEkTACK JOTdUNDERBARoWARDS VANEoEPSILON U
NDERBARqGREATER-THAN DIAERESISwI-BEAMfOTAa UNDERBARnJOT DIAERESISjUNDERBARmLEFT SHOE STILElWARDS V
ANEoOMEGAa UNDERBARoQUADa BACKSLASHjCIRCLEfOLONfDELaTAeIAMONDfVIDEfOWN CARETgWARDS ARROWpEQUALfGRE
ATER-THANmJOTdLEFTWARDS ARROWnSS-THANjNOT EQUALjQUESTIONiRIGHTWARDS ARROWqSLASHfUP CARETgWARDS ARR
OWqOTE QUADeUNDERBARoRHOcIGHTWARDS VANEpSEMICOLON UNDERBARrLASH BARiQUISH QUADkTAR DIAERESISmILE T
ILDElTILDE DIAERESISpUP CARET TILDElSHOE JOTiTACK DIAERESISjJOTdOVERBARnWARDS VANEmZILDEzaOLLONeST
ROPHEiPLICATION PROGRAM COMMANDyROACHES THE LIMITpXIMATELY BUT NOT ACTUALLY EQUAL TOzaEQUAL OR EQU
AL TOlTOa OR THE IMAGE OFzmQUARIUShRABIC BASELINE ROUND DOTsCOMMAeURLY DAMMAaTANiFATHAaTANiKASRAaT
ANoDAMMAa ISOLATED FORMnMEDIAL FORMlWITH DOTjTANa ISOLATED FORMuTE SEPARATORnECIMAL SEPARATORqISPU
TED END OF AYAHtOUBLE RIGHT ARROWHEAD ABOVEa WITH DOTzgD MADDAnEMPTY CENTRE HIGH STOPjLOW STOPuN
D OF AYAHeTEXT MARKqFATHAa ISOLATED FORMnMEDIAL FORMlWITH DOT ABOVEjRINGeTWO DOTSoTANa ISOLATED FO
RMvIVE POINTED STARqOOTNOTE MARKERoULL STOPjHALF MADDA OVER MADDAtMZA ABOVEfBELOWlINVERTED DAMMAoK
ASRAa ISOLATED FORMnMEDIAL FORMlWITH DOT BELOWpTANa ISOLATED FORMwLARGE CIRCLE BELOWmROUND DOT ABO
VEfBELOWfINSIDE CIRCLE BELOWzjEFT ARROWHEAD ABOVEfBELOWsTTER AEbFRICAN FEHdNOONeQAFa WITH THREE DO
TS ABOVEzhINa FINAL FORMkINITIAL FORMlSOLATED FORMnMEDIAL FORMlWITH THREE DOTS ABOVEfBELOWfPOINTIN
G DOWNWARDS ABOVEzjWO DOTS ABOVEfVERTICALLY ABOVEziLEFa FINAL FORMkISOLATED FORMnMAKSURAa FINAL FO
RMkISOLATED FORMvWASLAa FINAL FORMkISOLATED FORMsITH ATTACHED BOTTOM RIGHT KASRAa AND DOT ABOVEjLE
FT RINGzhFATHAfKASRAfLEFT HAMZAfROUND DOToRIGHT HAMZAfROUND DOToOUND DOT ABOVEfBELOWpTOP RIGHT FAT
HAa AND DOT ABOVEjLEFT RINGznDOT ABOVEjEXTENDED ARABIC-INDIC DIGIT THREE ABOVEkWO ABOVEzmHAMZA ABO
VEa FINAL FORMkISOLATED FORMtBELOWa FINAL FORMkISOLATED FORMzaLEFT MIDDLE STROKEsMADDA ABOVEa FINA
L FORMkISOLATED FORMzaRIGHT MIDDLE STROKEa AND DOT ABOVEjLEFT RINGziWAVY HAMZA ABOVEfBELOWzbBEEH
a FINAL FORMkINITIAL FORMlSOLATED FORMnMEDIAL FORMoHa FINAL FORMkINITIAL FORMlSOLATED FORMnMEDIA
L FORMlWITH DOT BELOW AND THREE DOTS ABOVEzfHAMZA ABOVElINVERTED SMALL V BELOWwSMALL MEEM ABOVEkV
a BELOWnTHREE DOTS HORIZONTALLY BELOWsPOINTING UPWARDS BELOWa AND TWO DOTS ABOVEzzbWO DOTS BELOW A
ND DOT ABOVEzjEHa FINAL FORMkINITIAL FORMlSOLATED FORMnMEDIAL FORMrDADa FINAL FORMkINITIAL FORMlSO
LATED FORMnMEDIAL FORMlWITH DOT BELOWqHALa FINAL FORMkISOLATED FORMrLa FINAL FORMkISOLATED FORMnWI
TH DOT BELOWa AND SMALL TAHxFOUR DOTS ABOVEpINVERTED SMALL V BELOWnVkRINGeTHREE DOTS ABOVE DOWNWAR
DSpBELOWpWO DOTS VERTICALLY BELOW AND SMALL TAHzwDAHALa FINAL FORMkISOLATED FORMrLa FINAL FORMkISO
LATED FORMrOTLESS BEHdFEHdQAFkULa FINAL FORMkISOLATED FORMqYEHa FINAL FORMkINITIAL FORMlSOLATED FO
RMnMEDIAL FORMqEa FINAL FORMkINITIAL FORMlSOLATED FORMnMEDIAL FORMnFARSI YEHa FINAL FORMkINITIAL F
ORMlSOLATED FORMnMEDIAL FORMlWITH EXTENDED ARABIC-INDIC DIGIT FOUR BELOWkTHREE ABOVEkWO ABOVEzmINV
ERTED VkTHREE DOTS ABOVEpWO DOTS ABOVEzdEHa FINAL FORMkINITIAL FORMlSOLATED FORMnMEDIAL FORMlWIT
H DOT BELOWa AND THREE DOTS ABOVEzbMOVED BELOWpTHREE DOTS BELOWfPOINTING UPWARDS BELOWzhWO DOTS BE
LOWxGAFa FINAL FORMkINITIAL FORMlSOLATED FORMnMEDIAL FORMlWITH INVERTED STROKEpRINGeTHREE DOTS ABO
VEpWO DOTS BELOWwHAINa FINAL FORMkINITIAL FORMlSOLATED FORMnMEDIAL FORMlWITH DOT BELOWjTHREE DOT
S ABOVEzbRAFdUEHa FINAL FORMkINITIAL FORMlSOLATED FORMnMEDIAL FORMqHAHa FINAL FORMkINITIAL FORMlSO
LATED FORMnMEDIAL FORMlWITH EXTENDED ARABIC-INDIC DIGIT FOUR BELOWznHAMZA ABOVElINVERTED SMALL V B
ELOWwSMALL ARABIC LETTER TAH ABOVEeND TWO DOTSmBELOWzeTHREE DOTS ABOVEfPOINTING UPWARDS BELOWzhW
O DOTS ABOVEfVERTICAL ABOVEzfMZAa ISOLATED FORMsEHa DOACHASHMEEa FINAL FORMkINITIAL FORMlSOLATED F
ORMnMEDIAL FORMxFINAL FORMkGOALa FINAL FORMkINITIAL FORMlSOLATED FORMnMEDIAL FORMlWITH HAMZA ABOVE
vINITIAL FORMlSOLATED FORMnMEDIAL FORMlWITH INVERTED VkYEH ABOVEa FINAL FORMkISOLATED FORMzgIGH HA
MZAa ALEFeWAWdYEHoJEEMa FINAL FORMkINITIAL FORMlSOLATED FORMnMEDIAL FORMlWITH THREE DOTS ABOVEfBEL
OWpWO DOTS ABOVEwHa FINAL FORMkISOLATED FORMrKAFa FINAL FORMkINITIAL FORMlSOLATED FORMnMEDIAL FORM
lWITH DOT ABOVEfBELOWjRINGeTHREE DOTS BELOWpWO DOTS ABOVEvSHMIRI YEHlEHEHa FINAL FORMkINITIAL FORM
lSOLATED FORMnMEDIAL FORMlWITH DOT ABOVEjSMALL VhTHREE DOTS ABOVEfBELOWfPOINTING UPWARDS BELOWzhW
O DOTS ABOVEfVERTICALLY BELOWzkHAHa FINAL FORMkINITIAL FORMlSOLATED FORMnMEDIAL FORMpIRGHIZ OEa FI
NAL FORMkISOLATED FORMqYUa FINAL FORMkISOLATED FORMyLAMa FINAL FORMkINITIAL FORMlSOLATED FORMnMEDI
AL FORMlWITH BARdDOT ABOVEhUBLE BARkSMALL ARABIC LETTER TAH ABOVExVhTHREE DOTS ABOVEfBELOWyOW ALEF
iMARKdEEMa FINAL FORMkINITIAL FORMlSOLATED FORMnMEDIAL FORMlWITH DOT ABOVEfBELOWjTHREE DOTS ABOVEz
bNGa FINAL FORMkINITIAL FORMlSOLATED FORMnMEDIAL FORMmOEHa FINAL FORMkINITIAL FORMlSOLATED FORMnME
DIAL FORMqOONa FINAL FORMkGHUNNAa FINAL FORMkISOLATED FORMuINITIAL FORMlSOLATED FORMnMEDIAL FORMlW
ITH DOT BELOWjINVERTED SMALL VqRINGeSMALL TAHdVhTHREE DOTS ABOVEpWO DOTS BELOWxYEHa FINAL FORMkINI
TIAL FORMlSOLATED FORMnMEDIAL FORMqOEa FINAL FORMkISOLATED FORMqPEHa FINAL FORMkINITIAL FORMlSOLAT
ED FORMnMEDIAL FORMlWITH SMALL MEEM ABOVEkVnEHa FINAL FORMkINITIAL FORMlSOLATED FORMnMEDIAL FORMrQ
AFa FINAL FORMkINITIAL FORMlSOLATED FORMnMEDIAL FORMlWITH DOT ABOVEfBELOWa AND NO DOTS ABOVEzcTHRE
E DOTS ABOVEzaREHa FINAL FORMkISOLATED FORMnWITH DOT BELOWa AND DOT ABOVExFOUR DOTS ABOVEpHAMZA AB
OVElINVERTED VkLOOPeRINGeSMALL ARABIC LETTER TAH AND TWO DOTSzfNOON ABOVEkVa BELOWmTROKEgTWO DOT
S ABOVEfVERTICALLY ABOVEziNOONa FINAL FORMkINITIAL FORMlSOLATED FORMnMEDIAL FORMqOHINGYA YEHlREH
a FINAL FORMkISOLATED FORMsSADa FINAL FORMkINITIAL FORMlSOLATED FORMnMEDIAL FORMlWITH THREE DOTS A
BOVEfBELOWpWO DOTS BELOWwEENa FINAL FORMkINITIAL FORMlSOLATED FORMnMEDIAL FORMlWITH DOT BELOW AN
D DOT ABOVExEXTENDED ARABIC-INDIC DIGIT FOUR ABOVEznFOUR DOTS ABOVEpINVERTED VkSMALL ARABIC LETTE
R TAH AND TWO DOTSzlTHREE DOTS BELOWa AND THREE DOTS ABOVEzlWO DOTS VERTICALLY ABOVEzjHEENa FINA
L FORMkINITIAL FORMlSOLATED FORMnMEDIAL FORMlWITH DOT BELOWtTRAIGHT WAWlUPERSCRIPT ALEFpWASH KAFjT
AHa FINAL FORMkINITIAL FORMlSOLATED FORMnMEDIAL FORMlWITH DOT BELOWjTHREE DOTS ABOVEfBELOWpWO DOT
S ABOVEwCHEHa FINAL FORMkINITIAL FORMlSOLATED FORMnMEDIAL FORMlWITH DOT ABOVEjSMALL VnEHa FINAL FO
RMkINITIAL FORMlSOLATED FORMnMEDIAL FORMsEHa FINAL FORMkINITIAL FORMlSOLATED FORMnMARBUTAa FINAL F
ORMkGOALeISOLATED FORMuEDIAL FORMlWITH RINGeSMALL TEH ABOVEjVhTHREE DOTS ABOVE DOWNWARDSzhEHa FINA
L FORMkINITIAL FORMlSOLATED FORMnMEDIAL FORMqHALa FINAL FORMkISOLATED FORMqEHa FINAL FORMkINITIA
L FORMlSOLATED FORMnMEDIAL FORMoIN YEHhTEHa FINAL FORMkINITIAL FORMlSOLATED FORMnMEDIAL FORMlWIT
H SMALL VnEHa FINAL FORMkINITIAL FORMlSOLATED FORMnMEDIAL FORMsUa FINAL FORMkISOLATED FORMnWITH HA
MZA ABOVEa ISOLATED FORMzgIGHUR KAZAKH KIRGHIZ ALEF MAKSURA INITIAL FORMmMEDIAL FORMzvVEa FINAL FO
RMkISOLATED FORMoHa FINAL FORMkINITIAL FORMlSOLATED FORMnMEDIAL FORMpWAWa FINAL FORMkISOLATED FORM
nWITH DOT ABOVEfWITHINkEXTENDED ARABIC-INDIC DIGIT THREE ABOVEkWO ABOVEzmHAMZA ABOVEa FINAL FORMkI
SOLATED FORMzaRINGeTWO DOTS ABOVExYEHa BARREEa FINAL FORMkISOLATED FORMnWITH EXTENDED ARABIC-INDI
C DIGIT THREE ABOVEkWO ABOVEzmHAMZA ABOVEa FINAL FORMkISOLATED FORMzmFINAL FORMkINITIAL FORMlSOLAT
ED FORMnMEDIAL FORMlWITH HAMZA ABOVEa FINAL FORMkINITIAL FORMlSOLATED FORMnMEDIAL FORMxSMALL VhTAI
LdHREE DOTS BELOWpWO DOTS BELOW AND DOT ABOVEjHAMZA ABOVElSMALL NOON ABOVEzsUa FINAL FORMkISOLATE
D FORMqZAHa FINAL FORMkINITIAL FORMlSOLATED FORMnMEDIAL FORMnINa FINAL FORMkISOLATED FORMnWITH INV
ERTED V ABOVEzhIGATURE AIN WITH ALEF MAKSURA FINAL FORMkISOLATED FORMzbJEEM INITIAL FORMlSOLATED F
ORMnWITH MEEM FINAL FORMkINITIAL FORMzcMEEM INITIAL FORMlSOLATED FORMnWITH ALEF MAKSURA FINAL FORM
xMEEM FINAL FORMkINITIAL FORMrYEH FINAL FORMyYEH FINAL FORMkISOLATED FORMzaKBAR ISOLATED FORMsLAYH
AA AS-SALAAMmE ISOLATED FORMpI AS-SALAAMbTU WAS-SALAAMwM AS-SALAAMkAA AS-SALAAMrEF MAKSURA WITH SU
PERSCRIPT ALEF FINAL FORMkISOLATED FORMzsWITH FATHATAN FINAL FORMkISOLATED FORMzfLAH ISOLATED FORM
sZZA WA JALLmBEH WITH ALEF MAKSURA FINAL FORMkISOLATED FORMzbHAH INITIAL FORMlSOLATED FORMnWITH YE
H FINAL FORMwEH INITIAL FORMmMEDIAL FORMpJEEM INITIAL FORMlSOLATED FORMsKHAH INITIAL FORMlSOLATE
D FORMnWITH YEH FINAL FORMyMEEM FINAL FORMkINITIAL FORMlSOLATED FORMnMEDIAL FORMqNOON FINAL FORMpR
EH FINAL FORMoYEH FINAL FORMkISOLATED FORMrZAIN FINAL FORMxISMILLAH AR-RAHMAN AR-RAHEEMzeDAD WIT
H ALEF MAKSURA FINAL FORMkISOLATED FORMzbHAH INITIAL FORMlSOLATED FORMnWITH ALEF MAKSURA FINAL FOR
MxYEH FINAL FORMxJEEM INITIAL FORMlSOLATED FORMsKHAH INITIAL FORMlSOLATED FORMnWITH MEEM FINAL FOR
MkINITIAL FORMzcMEEM INITIAL FORMlSOLATED FORMsREH FINAL FORMkISOLATED FORMrYEH FINAL FORMkISOLATE
D FORMzbFEH WITH ALEF MAKSURA FINAL FORMkISOLATED FORMzbHAH INITIAL FORMlSOLATED FORMrJEEM INITIA
L FORMlSOLATED FORMsKHAH INITIAL FORMlSOLATED FORMnWITH MEEM FINAL FORMkINITIAL FORMzcMEEM INITIA
L FORMlSOLATED FORMnWITH YEH FINAL FORMyYEH FINAL FORMkISOLATED FORMzbGHAIN WITH ALEF MAKSURA FINA
L FORMkISOLATED FORMzbJEEM INITIAL FORMlSOLATED FORMsMEEM INITIAL FORMlSOLATED FORMnWITH ALEF MAKS
URA FINAL FORMxMEEM FINAL FORMpYEH FINAL FORMyYEH FINAL FORMkISOLATED FORMzdHAH WITH ALEF MAKSUR
A FINAL FORMkISOLATED FORMzbJEEM INITIAL FORMlSOLATED FORMnWITH YEH FINAL FORMyMEEM INITIAL FORMlS
OLATED FORMnWITH ALEF MAKSURA FINAL FORMxYEH FINAL FORMyYEH FINAL FORMkISOLATED FORMzaEH WITH ALE
F MAKSURA ISOLATED FORMzbJEEM INITIAL FORMlSOLATED FORMsMEEM INITIAL FORMlSOLATED FORMnWITH JEEM I
NITIAL FORMrMEEM INITIAL FORMzcSUPERSCRIPT ALEF INITIAL FORMzeYEH ISOLATED FORMzbJALLAJALALOUHOUoE
EM WITH ALEF MAKSURA FINAL FORMkISOLATED FORMzbHAH INITIAL FORMlSOLATED FORMnWITH ALEF MAKSURA FIN
AL FORMxYEH FINAL FORMxMEEM INITIAL FORMlSOLATED FORMnWITH ALEF MAKSURA FINAL FORMxHAH FINAL FORMk
INITIAL FORMqYEH FINAL FORMyYEH FINAL FORMkISOLATED FORMzcKAF WITH ALEF FINAL FORMkISOLATED FORMnM
AKSURA FINAL FORMkISOLATED FORMzbHAH INITIAL FORMlSOLATED FORMrJEEM INITIAL FORMlSOLATED FORMsKHA
H INITIAL FORMlSOLATED FORMsLAM FINAL FORMkINITIAL FORMlSOLATED FORMnMEDIAL FORMpMEEM FINAL FORMkI
NITIAL FORMlSOLATED FORMnMEDIAL FORMlWITH MEEM FINAL FORMkINITIAL FORMrYEH FINAL FORMyYEH FINAL FO
RMkISOLATED FORMzaHAH WITH ALEF MAKSURA FINAL FORMkISOLATED FORMzbHAH ISOLATED FORMrJEEM INITIAL F
ORMlSOLATED FORMsMEEM INITIAL FORMlSOLATED FORMsYEH FINAL FORMkISOLATED FORMzcLAM WITH ALEF FINA
L FORMkISOLATED FORMnMAKSURA FINAL FORMkISOLATED FORMvWITH HAMZA ABOVE FINAL FORMkISOLATED FORMtBE
LOW FINAL FORMkISOLATED FORMzaMADDA ABOVE FINAL FORMkISOLATED FORMzkHAH INITIAL FORMlSOLATED FORMn
WITH ALEF MAKSURA FINAL FORMxMEEM FINAL FORMkINITIAL FORMrYEH FINAL FORMwEH INITIAL FORMqJEEM INIT
IAL FORMlSOLATED FORMnWITH JEEM FINAL FORMkINITIAL FORMrMEEM FINAL FORMkINITIAL FORMrYEH FINAL FOR
MyKHAH INITIAL FORMlSOLATED FORMnWITH MEEM FINAL FORMkINITIAL FORMzcMEEM FINAL FORMkINITIAL FORMlS
OLATED FORMnMEDIAL FORMlWITH HAH FINAL FORMkINITIAL FORMqYEH FINAL FORMyYEH FINAL FORMkISOLATED FO
RMzbMEEM WITH ALEF FINAL FORMkMAKSURA ISOLATED FORMzbHAH INITIAL FORMlSOLATED FORMnWITH JEEM INITI
AL FORMrMEEM INITIAL FORMrYEH FINAL FORMxJEEM INITIAL FORMlSOLATED FORMnWITH HAH INITIAL FORMqKHA
H INITIAL FORMrMEEM INITIAL FORMrYEH FINAL FORMyKHAH INITIAL FORMlSOLATED FORMnWITH JEEM INITIAL F
ORMrMEEM INITIAL FORMrYEH FINAL FORMyMEEM FINAL FORMkINITIAL FORMlSOLATED FORMnWITH YEH FINAL FORM
yYEH ISOLATED FORMzbOHAMMAD ISOLATED FORMwNOON WITH ALEF MAKSURA FINAL FORMkISOLATED FORMzbHAH INI
TIAL FORMlSOLATED FORMnWITH ALEF MAKSURA FINAL FORMxMEEM INITIAL FORMrYEH FINAL FORMwEH INITIAL FO
RMmMEDIAL FORMpJEEM INITIAL FORMlSOLATED FORMnWITH ALEF MAKSURA FINAL FORMxHAH FINAL FORMkINITIA
L FORMqMEEM FINAL FORMkINITIAL FORMrYEH FINAL FORMyKHAH INITIAL FORMlSOLATED FORMsMEEM FINAL FORMk
INITIAL FORMlSOLATED FORMnMEDIAL FORMlWITH ALEF MAKSURA FINAL FORMxYEH FINAL FORMyNOON FINAL FORMp
REH FINAL FORMoYEH FINAL FORMkISOLATED FORMrZAIN FINAL FORMzaQAF WITH ALEF MAKSURA FINAL FORMkISOL
ATED FORMzbHAH INITIAL FORMlSOLATED FORMrMEEM INITIAL FORMlSOLATED FORMnWITH HAH FINAL FORMkINITIA
L FORMqMEEM FINAL FORMpYEH FINAL FORMyYEH FINAL FORMkISOLATED FORMyLA USED AS KORANIC STOP SIGN IS
OLATED FORMzsUDDISA SIRRAHoRADI ALLAAHU ANHaAAcUMaAAdNNAsHIMAHU ALLAAHhM ALLAAHoSOUL ISOLATED FORM
tEH WITH SUPERSCRIPT ALEF ISOLATED FORMzoSAD WITH ALEF MAKSURA FINAL FORMkISOLATED FORMzbHAH INITI
AL FORMlSOLATED FORMnWITH HAH FINAL FORMkINITIAL FORMqYEH FINAL FORMxKHAH INITIAL FORMrMEEM INITIA
L FORMlSOLATED FORMnWITH MEEM FINAL FORMkINITIAL FORMzcREH FINAL FORMkISOLATED FORMrYEH FINAL FORM
kISOLATED FORMyLAAMUHU ALAYNAAnM ISOLATED FORMqLA ISOLATED FORMnUSED AS KORANIC STOP SIGN ISOLATE
D FORMzpLLAAHU ALAYHI WA-AALIHtHOU ALAYHE WASALLAMsU ALAYHI WAAALIHEE WA-SALLAMzlEEN WITH ALEF MAK
SURA FINAL FORMkISOLATED FORMzbHAH INITIAL FORMlSOLATED FORMnMEDIAL FORMlWITH JEEM INITIAL FORMzaE
H INITIAL FORMmMEDIAL FORMpJEEM INITIAL FORMlSOLATED FORMnMEDIAL FORMlWITH ALEF MAKSURA FINAL FORM
xHAH INITIAL FORMzbKHAH INITIAL FORMlSOLATED FORMnMEDIAL FORMlWITH ALEF MAKSURA FINAL FORMxYEH FIN
AL FORMyMEEM INITIAL FORMlSOLATED FORMnMEDIAL FORMlWITH HAH FINAL FORMkINITIAL FORMqJEEM INITIAL F
ORMrMEEM FINAL FORMkINITIAL FORMzcREH FINAL FORMkISOLATED FORMrYEH FINAL FORMkISOLATED FORMzbHADD
A WITH DAMMA ISOLATED FORMnMEDIAL FORMmTAN ISOLATED FORMwFATHA ISOLATED FORMnMEDIAL FORMrKASRA ISO
LATED FORMnMEDIAL FORMmTAN ISOLATED FORMwSUPERSCRIPT ALEF ISOLATED FORMzpEEN WITH ALEF MAKSURA FIN
AL FORMkISOLATED FORMzbHAH FINAL FORMkINITIAL FORMlSOLATED FORMnMEDIAL FORMlWITH MEEM FINAL FORMkI
NITIAL FORMrYEH FINAL FORMwEH INITIAL FORMmMEDIAL FORMpJEEM FINAL FORMkINITIAL FORMlSOLATED FORMnM
EDIAL FORMlWITH YEH FINAL FORMyKHAH FINAL FORMkINITIAL FORMlSOLATED FORMnMEDIAL FORMqMEEM FINAL FO
RMkINITIAL FORMlSOLATED FORMnMEDIAL FORMlWITH KHAH FINAL FORMkINITIAL FORMrMEEM FINAL FORMkINITIA
L FORMzcREH FINAL FORMkISOLATED FORMrYEH FINAL FORMkISOLATED FORMzcUBHAANAHU WA TAAALAAvTABAARAK
A WA-TAAALAAsH WITH ALEF MAKSURA FINAL FORMkISOLATED FORMzbHAH INITIAL FORMlSOLATED FORMrMEEM INIT
IAL FORMlSOLATED FORMnMEDIAL FORMlWITH HAH FINAL FORMkINITIAL FORMqMEEM INITIAL FORMrYEH FINAL FOR
MyYEH FINAL FORMkISOLATED FORMzaEH WITH ALEF MAKSURA FINAL FORMkISOLATED FORMzbHAH INITIAL FORMlSO
LATED FORMnWITH JEEM FINAL FORMkINITIAL FORMrMEEM INITIAL FORMzaEH INITIAL FORMmMEDIAL FORMpJEEM I
NITIAL FORMlSOLATED FORMnWITH ALEF MAKSURA FINAL FORMxMEEM INITIAL FORMrYEH FINAL FORMyKHAH INITIA
L FORMlSOLATED FORMnWITH ALEF MAKSURA FINAL FORMxMEEM INITIAL FORMrYEH FINAL FORMyMEEM FINAL FORMk
INITIAL FORMlSOLATED FORMnMEDIAL FORMlWITH ALEF MAKSURA FINAL FORMxHAH INITIAL FORMqJEEM INITIAL F
ORMrKHAH INITIAL FORMrYEH FINAL FORMyNOON FINAL FORMpREH FINAL FORMoYEH FINAL FORMkISOLATED FORMrZ
AIN FINAL FORMxHAL WITH SUPERSCRIPT ALEF ISOLATED FORMznEH WITH ALEF MAKSURA FINAL FORMkISOLATED F
ORMzbHEH MEDIAL FORMpJEEM ISOLATED FORMsMEEM FINAL FORMkINITIAL FORMlSOLATED FORMnMEDIAL FORMqNOO
N FINAL FORMpREH FINAL FORMoYEH FINAL FORMkISOLATED FORMrZAIN FINAL FORMzaUIGHUR KIRGHIZ YEH WIT
H HAMZA ABOVE WITH ALEF MAKSURA FINAL FORMkINITIAL FORMlSOLATED FORMzzrWASALLAM ISOLATED FORMwYE
H WITH ALEF MAKSURA FINAL FORMkISOLATED FORMzbHAH INITIAL FORMlSOLATED FORMnWITH YEH FINAL FORMvMZ
A ABOVE WITH AE FINAL FORMkISOLATED FORMpLEF FINAL FORMkISOLATED FORMnMAKSURA FINAL FORMkISOLATE
D FORMzbE FINAL FORMkINITIAL FORMlSOLATED FORMpHAH INITIAL FORMlSOLATED FORMqEH INITIAL FORMmMEDIA
L FORMpJEEM INITIAL FORMlSOLATED FORMsKHAH INITIAL FORMrMEEM FINAL FORMkINITIAL FORMlSOLATED FORMn
MEDIAL FORMqNOON FINAL FORMpOE FINAL FORMkISOLATED FORMqREH FINAL FORMoU FINAL FORMkISOLATED FORMp
WAW FINAL FORMkISOLATED FORMrYEH FINAL FORMkISOLATED FORMqU FINAL FORMkISOLATED FORMqZAIN FINAL FO
RMzgEH INITIAL FORMmMEDIAL FORMpJEEM INITIAL FORMlSOLATED FORMnWITH YEH FINAL FORMyKHAH INITIAL FO
RMlSOLATED FORMsMEEM FINAL FORMkINITIAL FORMlSOLATED FORMnMEDIAL FORMlWITH MEEM FINAL FORMkINITIA
L FORMrYEH FINAL FORMyNOON FINAL FORMpREH FINAL FORMoYEH FINAL FORMkISOLATED FORMrZAIN FINAL FORMy
ZAH WITH MEEM INITIAL FORMlSOLATED FORMnMEDIAL FORMzjMADDA WAAJIBhH ABOVEkRK NOON GHUNNAlSIDEWAY
S NOON GHUNNAxTHEMATICAL AINcLEFeBEHdDADbLcOTLESS BEHdFEHdNOONeQAFjUBLE-STRUCK AINdBEHdDADbLdFEHdG
HAINfHAHdJEEMeKHAHeLAMdMEEMeNOONeQAFdREHdSADcEENdHEENfTAHcEHcHALcEHeWAWdYEHdZAHbINsFEHdGHAINfHAHdI
NITIAL AINdBEHdDADdFEHdGHAINfHAHcEHdJEEMeKAFcHAHeLAMdMEEMeNOONeQAFdSADcEENdHEENfTEHcHEHeYEHlJEEMeK
AFcHAHeLAMcOOPED AINcLEFeBEHdDADbLdFEHdGHAINfHAHcEHdJEEMeKHAHeLAMdMEEMeNOONeQAFdREHdSADcEENdHEENfT
AHcEHcHALcEHeWAWdYEHdZAHbINlMEEMeNOONeOPERATOR HAH WITH DALmMEEM WITH HAH WITH TATWEELzkQAFdREHdSA
DcEENdHEENeTRETCHED AINdBEHdDADcOTLESS BEHdFEHlFEHdGHAINfHAHcEHdJEEMeKAFcHAHeMEEMeNOONeQAFdSADcEEN
dHEENfTAHcEHcHEHeYEHdZAHnTAHbILED AINdDADcOTLESS NOONeQAFlGHAINfHAHdJEEMeKHAHeLAMdNOONeQAFdSADcEEN
dHEENfYEHjEHcHALcEHeWAWdYEHdZAHbINrNUMBER MARK ABOVEkSIGNlOPEN DAMMATANiFATHATANiKASRATANnPERCEN
T SIGNlIASTRE MARK ABOVErLACE OF SAJDAHoOETIC VERSE SIGNpUND MARK ABOVEqQUESTION MARKnRAISED ROUN
D DOToYcEVERSED DAMMAnIGHT ARROWHEAD ABOVEa WITH DOToBELOWuOUNDED HIGH STOP WITH FILLED CENTREzlSE
MICOLONiHADDAa ISOLATED FORMnMEDIAL FORMrIGN ALAYHE ASSALLAMpMISRAfRADI ALLAHOU ANHUpHMATULLAH ALA
YHEsSAFHAdLLALLAHOU ALAYHE WASSALLAMzbMVATeNAHeINDHI AMPERSANDjPOSTPOSITION MENxTAKHALLUSnMALL DAM
MAfFARSI YEHhTHAfHIGH AINdDOTLESS HEAD OF KHAHuFARSI YEHiOOTNOTE MARKERpJEEMeLAM ALEFhIGATURE ALE
F WITH LAM WITH YEHwQAF WITH LAM WITH ALEF MAKSURAzfSAD WITH LAM WITH ALEF MAKSURAzoMADDAeEEM INIT
IAL FORMlSOLATED FORMsNOONa WITH KASRApQAFdROUNDED ZEROmSADcEENdIGN SAFHAkTAHcHREE DOTSkUPRIGHT RE
CTANGULAR ZEROyWAWcORD AL-JUZfN-NISFgR-RUBfS-SAJDAhTH-THALATHAmQIFdSAHbKTAfWAQFAkYEHa BARREE WIT
H TWO DOTS BELOWzfZAHbINjKASRAfLOW MEEMeNOON WITH KASRApSEENeWAWcORD IMAALAfSHMAAMhTASHEELqWAWdYEH
iTART OF RUB EL HIZBtUBSCRIPT ALEFmKUNa BELOWfISOLATED FORMnMEDIAL FORMpPERSCRIPT ALEF MOKHASSASza
YMBOL DOT ABOVEfBELOWhUBLE VERTICAL BAR BELOWzaFOUR DOTS ABOVEfBELOWpRINGeSMALL TAH ABOVEfBELOWpTH
REE DOTS ABOVEfBELOWfPOINTING DOWNWARDS ABOVEfBELOWzjWO DOTS ABOVEfBELOWfVERTICALLY ABOVEfBELOWzaW
ASLA ABOVEsTAIL FRAGMENTlTWEELa WITH FATHATAN ABOVEoOVERSTRUCK HAMZAfWAWoTWO DOTS BELOWzbHOUSAND
S SEPARATORsONE LOOP ABOVEfBELOWkONE DOT ABOVEfBELOWnTWO DOTS ABOVEfBELOWsRIPLE DOT PUNCTUATION MA
RKzbURNED DAMMA BELOWsVERTICAL TAILmOWEL SIGN DOT BELOWjINVERTED SMALL V ABOVEwSMALL V ABOVEyWAV
Y HAMZA BELOWqZWARAKAYj-INDIC CUBE ROOTjDIGIT EIGHTfFIVEdOUReNINEeONEdSEVENeIXdTHREEeWOdZEROkFOURT
H ROOTlPER MILLE SIGNkTEN THOUSAND SIGNzhCbIESdMENIAN ABBREVIATION MARKqPOSTROPHEkCAPITAL LETTER A
YBdBENdCAbHAbEHdOcDAcECHcHbTcFEHdGHADdIMdHOcINIdJAbHEHeKEHbNdLIWNeMENdNOWdOHcPEHcIWReRAbEHdSEHcHAd
TIWNdOcVEWcOcXEHdYIaWNeZAbHErOMMAfDRAM SIGNjEMPHASIS MARKmXCLAMATION MARKqFULL STOPjHYPHENgMODIFIE
R LETTER LEFT HALF RINGzfQUESTION MARKnSMALL LETTER AYBdBENdCAbHAbEHdOcDAcECHcHbTcFEHdGHADdIMdHOcI
NIdJAbHEHeKEHbNdLIWNeMENdNOWdOHcPEHcIWReRAbEHdSEHcHAdTIWNdObURNED AYBkVEWcOcXEHdYIa WITH STROKEmWN
eZAbHEjIGATURE ECH YIWNiMEN ECHdINIdNOWdXEHhVEW NOWzeROW POINTING DOWNWARDS THEN CURVING LEFTWARDS
jRIGHTWARDSziRIGHTWARDS THEN CURVING DOWNWARDSjSOUTH WESTkUPWARDSzgUPWARDS THEN NORTH WESTziHEAD-S
HAPED POINTERwTICULATED LORRYnST PALETTEnSCENDING NODElIA SYMBOLkSERTIONhTERISKa OPERATORkMfONISHE
D FACEmRAEAdONOMICAL SYMBOL FOR URANUSzdYMPTOTICALLY EQUAL TOwTHLETIC SHOElOM SYMBOLkUBERGINEhSTRA
L SIGNkTO RICKSHAWjMATED TELLER MACHINEtOBILEjVESTAN ABBREVIATION MARKrLETTER AaAaNbOcEaEcNbOcBEbH
EdCEcDEbHEdEaEcFEcGEbGEcHEdHEbMEdIaIcJEcKEcLEcMEcNEbGEbVEcYEdNEcYEdOaOcPEcREcSEbHEbYEdSHEeTEbHEcTE
dUaUcVEcXEbVEcYEdYEbYEdZEbHEqOCADOgXEdBABYa ANGELfBOTTLEgCHICKfSYMBOLjCK OF ENVELOPElWITH LEFTWARD
S ARROW ABOVEzc-TILTED SHADOWED WHITE RIGHTWARDS ARROWzoSLANTED SOUTH ARROW WITH HOOKED TAILjRIZON
TAL TAILzoPACEgONcTRIAN CAMELmDGERdMINTON RACQUET AND SHUTTLECOCKzgGELcGAGE CLAIMkUETTE BREADmLINE
SE ADEG ADEGjCARIK PAMUNGKAHhRERENhSIKIkDIGIT EIGHTfFIVEdOUReNINEeONEdSEVENeIXdTHREEeWOdZEROkLETTE
R AIKARAfKARAa TEDUNGlRCHAIC JNYAlSYURA SASAKmBAa KEMBANGkCAa LACAhDAa MADUdURDA ALPAPRANAjMAHAPRA
NAsEF SASAKhKARAfGAa GORAhHAcIKARAa TEDUNGmJAa JERAhKAa MAHAPRANAkF SASAKiHOT SASAKkLAa LENGAa TED
UNGpMAcNAa RAMBATiGAcYAdOKARAa TEDUNGmPAa KAPALiRAa REPAa TEDUNGoSAa SAGAcPAhTAa LATIKfMURDA MAHAP
RANApTAWAgZIR SASAKkUKARAa TEDUNGmVE SASAKiWAcYAcZAL SASAKqMUSICAL SYMBOL COMBINING BENDEfENDEPfGO
NGeJEGOGANhKEMPLIa WITH JEGOGANpULa WITH JEGOGANtTEGEHpDAENGdINGdNGa GEDEeSURANGkENGcUNGeINGdONGdU
NGeLEFT-HAND CLOSED PLAKcUKlOPEN PANGdINGdUNGtRIGHT-HAND CLOSED TAKcUKkOPEN DAGcUGzjPAMADAa LANTAN
GlENENGgNTIa LANTANGnSIGN BISAHfCECEKfREREKANhSURANGgULU CANDRAgRICEMoVOWEL SIGN LA LENGAa TEDUNGp
PEPETa TEDUNGmRA REPAa TEDUNGoSUKUa ILUTjTALINGa REPAa TEDUNGlTEDUNGmEDUNGgULUa SARItWINDUlL OF YA
RNiET SHOESiOONa-SPOKED ASTERISKsT BOLD SCRIPT XlXa WITH BALLOTfOLD CHECKfSCRIPT XnCHECKfLIGHT XhS
CRIPT XiXkSCRIPT XiXgMUM COLONdMBINING MARK KOQNDONhTUKWENTISvMAfFULL STOPjLETTER AbEEcFAAMAEfEEcO
McUcIbKAbENbTbUXdIbOaGHOMeVUUePAcUbYEEeLAbEEEEeIbOQcUcMaAbBAAcENdEEEEdNcIbObUcNAbDAAdGAbGAcKWAENgI
bJAEMdEEcUAEeSHAdTEEcUUdUaAEdYIdObPAbEEbUXdHASE-A FIRIeGBIEE FONiHEUAEGHEUAEgRAEjKAFAcQcETbUKEUTND
AjPOQdUOQeLAPAQeET KUTgOMMAEfUaAEPfMAEKEUPeMaBGBIEEgKPENeVEUXfNYIdSIdNSUAEfP PIEETiBANYIdQdEUNJOMN
DEUQlGBASAfON NGGEUAETkOMEUTdPUQgVEUAENGAMkNAA MFONgQcDA LEERAEWAjANGGEUAETlENcGANGUeGENdKUE MFONf
NZEUMjIKAdJAMdKAARAEfINDIfSHAbIEEfTAPa MFAAeNTAAhOQPENgYETcIaT MONGKEUAEQoZA MFONgUN MEUTjPA LEERA
EWAjAMbRAEeMSHAEfSHAEfETcON MFON PIPAEMBAcGBIEEqPA NJI PIPAEMBAcGBIEEvUPdROMdSEUNYAMgHINDA PA NJIk
RAEeOQ NSHUT YUMmUENSHUEThMdISAdONJAMeQbTcUUdTEUAENdTEUWENiITA MFONiU MAEMBAhAEPfU YUQ NAEiNKNOWNh
VEEfB FEEbUXeGHEUGHENbUAEMlKAMcEUAEMdPUQdYEUXgIEEMdQdLAANAEeM NSHUT NYAMnETcOM NTEUMjMAa NJEUAENAg
UQAhBA MAELEEhARAEfEURIeIT MBAAKETkUOQeEUQbT NGGEETkFIYAQeON TEUAEQkONTIEENiNDU NJAAhGGAAMdEU MBUg
UOQa LARGEkKINDI MVOPkOMdSENcHUETfTIEE SHEUOQlYAEMAEfI NTEUMjPARUMeEESHIfITcUNGAAMhSAKEUAEgET TUfH
ET NJAQgUAEQTUiIEEdUEdTAAMdU MAEMGBIEEjNSIEEiVEUMeWUAETfYAFU LEERAEWAmEURAEiC BUNGeFUEdGBAYIeHAPbR
AEgKAAcEN FATIGUEhLAWfTbUKAQdMbSEUXdHEUAEPjPARAQfUOP NKAARAEkTdLAMbPcIQcUcMA KEUAERIhNSIEEgEMBAdSI
eBAA CABBAGE-TREEmPICKETiNYIeEEKEETfRAEdUMbXdIaRIEENfTcUAEMdEdGBASAQgIEEdUAEeNANSANAQgQcDAMbPcEUAE
REEfTdIDAdOMBUfGAQcGENcUaAEN NYAMiEETdMbONeKAQcUE MAEMBAkOMdJAEMcMcEEEEdUXdUEQeSAbEUAENfHAQdOMcUNb
OT NGOMjTAAcENbUNGBAgU MBIThYIR MKPARAQ MEUNqZAbEUMfPENcINbRIEENhRUcSETFONeUXdHIQcUEQeUAETfTAASHAE
gETbUTEUXgITA YUEfUAEPhVEUAEPENfXeWANGKUOQhUPdYAAcEUQdU MUOMAEhMbWOQhD FAAcEUFEUAETjGHAAcEUAEgKETb
UAETMEUNhMbOT MBUAEiPdUaNbOMcQcWAETeYEEeLEEEEdTbUAEPdMdIEEdOQcUMdMaAENJETfLEERIgBAAa SEVENiUOdEEEE
dUNbTdFEUAEcTdIEEdOaNdGBEUNdIEEdOFUMgONIdUbVOPeNDAMcEEbUXdONdGGAAMaAEePcEUXdUOMdWAENfKAPcEUAEQdRIe
IEEdUNcYEEfIbJAPcEUAEMdTdIaEEdUEQeSHEEcUTdIEEPbTeUMdTEEbUMdUUdUbYAMcETcIbUEePAPcEEbUTAEfIPcUQbUTeR
AEMdEN MUCHeOLDgIIdSAPbQcEUAEQfHEEbUAEcXdIIcOQcUcOTcUAEcEbUdTAEcEEEEdUAENdNbTdIbOQcUaOTeWAPcUAENfY
AEMMAEgENcUOMbPcWOQhE AbFAaQcEEcOMcU CALLeIbREMEDYhEaTeGBETbUXeHAAMAEfETbUAEcNbXdOMeIbKETbUAEcXdIb
ObPEUXeUETcOPcTdLAAMcPbQcEUAEMfOMbONbTcQcUcMAaEaMcPbQcBEEbUMeENcFEUQeGBAbENeIaEEdONcUAEdVIdNAaEcDA
A MY HOUSEiSOFTNESSkPcIAQcQcUNdGAbEUREUTgGEEEEdUAEaTfUAESHAE NYAMlPbRAEfKAaAMIeEUAEMdXdUMbPdOPbQcU
AEaTfJAEMLIfEEa EPOCHhUXeKOMdSHIEEdUEbOPfTAPcUMdYI BETWEENhCLEAVERkZAQcUQeObPA PEOPLEfLURALhAaMdEE
McUTbXdIaEEQcTdOaONdUaAEbQcEbMdRAEbQcEUXdIMGBAgSAAcEEbTcHEUAEQfIQcOaQdOMcUAENfTAAaQcEN NTEUMiMbQcE
NbUaAEQfOOaNcQcUAEcMaAEfVEEbUAEeOMdWEUXdUEbOdYAPcEUAEaTdMbXdIEEcTcOQ COVERfSWIMMINGlUAENdEQcNbQf
F EEcFOMdKAbENbTcObPAcUbYEEeLAbIbOQdMaAbBAAcENdEEEEeOcNDAAdGGAcKWAENgIbJAEMdUAEeSHAdTEEdUaAEdYIdPE
EbUXdUAEeREEbNbUXdIEEcIcUcSAMBAeEUXdHIIcObUcIbUUdTAAbEcETdUbVUEQeWAbUEdYAbOQkIbUAEcEdRAEcEEbNbUXdI
EEcIcUcSAMBAeEUXdHEUXdIIcObUcIbUUdTAAbEcENbTcIcUbWAbUEdYAbOQcUQkNJAEMLIhQUESTION MARKnSEMICOLONnNA
NAdJOcKaNOTE WITH DOLLAR SIGNlEURO SIGNjPOUND SIGNkYEN SIGNuR CHARTfOF SOAPiBER POLEjSEBALLfKETaBA
LL AND HOOPqSA VAH COMBINING HIGH TONEf-LOW TONEnLOW TONEf-MID TONEmMID TONEsFULL STOPjLETTER AbBA
cCEcDHIIdOcEaEbNNIeFAcGAHcBUdHWAHeIbJOcKAbPAHeMBEdOaOcPAcSEcTOcUaWUdVUcWAaDDAfYEINdIEdZOrTaAK CONS
ONANT SIGN HbNGrLETTER AbBAcCAcDAcGAcHAcIbJAcKARO BAhLAcMAaNDAILING HAcNAcSAmBAdNAbDAcGAcORTHERN T
AkYAdPAaKPAK WAjRAcSAbIMALUNGUN AbGAcHAcLAcMAcPAcRAcSAcWAcYAmOUTHERN TAlUbWAcYAjPANGOLATfONGONANkS
IGN TOMPIjYMBOL BINDU JUDULfNA METEKiPANGOLAThINARBORASxVOWEL SIGN EaEcIbKARO IbOgObPAKPAK EiUa FO
R SIMALUNGUN SAziHaTUBeTERYgEACH WITH UMBRELLAqMED ASCENDING MUSICAL NOTESxDESCENDING MUSICAL NOTE
SyEIGHTH NOTESmSIXTEENTH NOTEStNScR FACEfDED PERSONlTING HEARTkVEReCAUSEfDbER MUGfTLEeLaLa PEPPERg
SYMBOLgWITH CANCELLATION STROKEzaHOP BELLkNGALI ABBREVIATION SIGNqNJIdU LENGTH MARKoCURRENCY DENOM
INATOR SIXTEENtNUMERATOR FOUReONEa LESS THAN THE DENOMINATORzeTHREEeWOwDIGIT EIGHTfFIVEdOUReNINEeO
NEdSEVENeIXdTHREEeWOdZEROkGANDA MARKkISSHARgLETTER AaAbIbUcBAbHAdCAbHAdDAbDAbHAdHAdEbGAbHAdHAcIaIc
JAbHAdKAbHAaNDA TAjLAcMAcNAbGAcNAcYAdObPAbHAdRAa WITH LOWER DIAGONALoMIDDLE DIAGONALwHAcRAdSAbHAcS
AdTAbHAcTAbHAeUaUcVEDIC ANUSVARAnOCALIC LaLcRaRkYAbYAkRUPEE MARKeSIGNkSANDHI MARKkIGN ANUSVARAhVAG
RAHAiCANDRABINDUlNUKTAfVIRAMAeSARGAmVOWEL SIGN AAbIbUcEbIaIcObUaUcVOCALIC LaLcRaRzbT ARROW POINTIN
G DOWNWARDS THEN NORTH EASTzqO BOXgZENE RINGa WITH CIRCLEwT SYMBOLhWEENfVERAGE BOXlHAIKSUKI DANDAe
IGIT EIGHTfFIVEdOUReNINEeONEdSEVENeIXdTHREEeWOdZEROjOUBLE DANDAmGAP FILLER-1b2mHUNDREDS UNIT MARKs
LETTER AaAbIbUcBAbHAdCAbHAdDAbDAbHAdHAdEbGAbHAdHAcIaIcJAbHAdKAbHAdLAcMAcNAbGAcNAcYAdObPAbHAdRAcSAb
HAcSAdTAbHAcTAbHAeUaUcVAbOCALIC LbRaRkYAjNUMBER EIGHTaYgFIFTYdVEdORTYdUReNINEaTYgONEdSEVENaTYgIXaT
YfTENcHIRTYeREEeWENTYeOkSIGN ANUSVARAhVAGRAHAiCANDRABINDUlVIRAMAeSARGAmVOWEL SIGN AAbIbUcEbIaIcObU
aUcVOCALIC LbRaRvWORD SEPARATORxICYCLEbISThG REVERSE SOLIDUSpSOLIDUSjKINIeLLED CAPgIARDShOHAZARD S
IGNmRDbTHDAY CAKElSONdTCOIN SIGNjING LIPjLACK BOWTIEgCENTRE WHITE STARqHESS BISHOPa ROTATED NINET
Y DEGREESoTWO HUNDRED SEVENTY DEGREESzrEQUIHOPPERa ROTATED NINETY DEGREESziKINGa ROTATED NINETY DE
GREESoTWO HUNDRED SEVENTY DEGREESzoNIGHTa ROTATED FORTY-FIVE DEGREESsNINETY DEGREESoONE HUNDRED TH
IRTY-FIVE DEGREESzgTHREE HUNDRED FIFTEEN DEGREESzdWO HUNDRED SEVENTY DEGREESpTWENTY-FIVE DEGREESzp
-BISHOPgQUEENfROOKlPAWNa ROTATED NINETY DEGREESoTWO HUNDRED SEVENTY DEGREESzpQUEENa ROTATED NINET
Y DEGREESoTWO HUNDRED SEVENTY DEGREESzqROOKa ROTATED NINETY DEGREESoTWO HUNDRED SEVENTY DEGREESzpT
URNED BISHOPgKINGdNIGHTgPAWNeQUEENfROOKqIRCLEa FOR RECORDkWITH DOWN ARROWkTWO WHITE DOTSoWHITE DO
T RIGHTzbLUB SUITiROSS ON SHIELDoURVED DOWNWARDS AND LEFTWARDS ARROWpRIGHTWARDS ARROWzfLEFTWARDS A
ND DOWNWARDS ARROWpUPWARDS ARROWzcRIGHTWARDS AND DOWNWARDS ARROWpUPWARDS ARROWzdUPWARDS AND LEFTWA
RDS ARROWpRIGHTWARDS ARROWzkDIAMONDa CENTREDhMINUS WHITE XnON CROSSiSUITeWITH DOWN ARROWwOWN POINT
ING BACKHAND INDEXy-POINTING DOUBLE TRIANGLEpISOSCELES RIGHT TRIANGLEySMALL TRIANGLEoTRIANGLEsWARD
S EQUILATERAL ARROWHEADzfRAUGHTS KINGeMANkOPLEThFLAGcORETTEhOLDEReUR POINTED STARrHARD SHELL FLOPP
Y DISKvEARTa SUITiXAGONgORIZONTAL ELLIPSEqURGLASSjLARGE CIRCLEgSQUARElEFT LANE MERGEkPOINTING BACK
HAND INDEXoINDEXp-POINTING DOUBLE TRIANGLEa WITH VERTICAL BARziISOSCELES RIGHT TRIANGLEyPOINTERhSM
ALL TRIANGLEoTRIANGLEsWARDS BULLETgEQUILATERAL ARROWHEADzfOWER LEFT TRIANGLEnRIGHT TRIANGLEsZENGEh
MEDIUM DIAMONDgOWN-POINTING TRIANGLEa CENTREDzfLEFT-POINTING TRIANGLEa CENTREDzeOZENGEhRIGHT-POINT
ING TRIANGLEa CENTREDzgSMALL DIAMONDhLOZENGEhSQUARElQUAREgUP-POINTING TRIANGLEa CENTREDzjOON LILIT
HlNIBdOCTAGONhPARALLELOGRAMmENNANTeTAGONhUSHPINhQUESTION MARK ORNAMENTwRECTANGLEiIGHT POINTING BAC
KHAND INDEXoINDEXp-POINTING DOUBLE TRIANGLEa WITH VERTICAL BARziISOSCELES RIGHT TRIANGLEyPENTAGONh
OINTERhSMALL TRIANGLEoTRIANGLEa WITH DOUBLE VERTICAL BARzsWARDS ARROWaHEADjBULLETgEQUILATERAL ARRO
WHEADzgOSETTEhSAFETY SCISSORSoCISSORShHOGI PIECEkKULL AND CROSSBONEStLIGHTLY SMALL CIRCLEgSQUAREuM
ALL DIAMONDhLOZENGEhSQUAREfTARiILING FACElNOWMANgPADE SUITjQUAREa BUTTONgCENTREDhFOR STOPoTARdUN W
ITH RAYSnTELEPHONEiINY DIAMONDhLOZENGEhSQUAREkOUCHTONE TELEPHONEsRUCKeWO-WAY LEFT WAY TRAFFICyUNIV
ERSAL RECYCLING SYMBOLzaP POINTING BACKHAND INDEXy-POINTING DOUBLE TRIANGLEpISOSCELES RIGHT TRIANG
LEySMALL TRIANGLEoTRIANGLEsPER LEFT TRIANGLEnRIGHT TRIANGLEsWARDS EQUILATERAL ARROWHEADzeVERTICA
L ELLIPSEhRECTANGLEpY SMALL DIAMONDhLOZENGEhSQUAREs-FEATHERED NORTH EAST ARROWqRIGHTWARDS ARROWqSO
UTH EAST ARROWzbLETTER CAPITAL CbHbIbRbZtNK SYMBOLkOCK SEXTANT-1a2a3a4a5b6c5a6c6c4a5a6c6c5a6c6c3a4
a5a6c6c56c6c4a5a6c6c5a6c6c2a3a4a5a6c6c5a6c6c4a5a6d5a6c6c3a4a5a6c6c5a6c6c4a5a6c6c5a6c6mSSOMeWFISHgU
E BOOKeHEARTgBERRIESkOARcLD EIGHT SPOKED ASTERISKvFIVE SPOKED ASTERISKuGREEK CROSSlSALTIREgIX SPOK
ED ASTERISKtWHITE CIRCLEgSQUAREpMaBcNEcOKaMARKa TABSjScMERANGhPOMOFO FINAL LETTER GbHbKbPbToLETTE
R AaHbIaNNdMbNaGbNcUaNNeBaUcCaHcDbEaEbHbIbNaGbNcRcFbGaHbNbUbWcHbIaHbMbNNaNdRbUcJaIcKaWcLaHcMbNaGaG
cNcOa WITH DOT ABOVEpEbMbNGbNcObUcPbQbRbSaHcTbUaNNdVbXbZaHbIbYqTTLE WITH POPPING CORKuOM ARC ANTIC
LOCKWISE ARROWxCURLY BRACKETnHALF BLACK CIRCLEmINTEGRALiLEFT PARENTHESISqRIGHT PARENTHESISwLEFT CO
RNERfROPeHALF BRACKETrPARENTHESISlRIGHT CORNERfROPeHALF BRACKETsSQUARE BRACKETa OVER TOP SQUARE BR
ACKETznTORTOISE SHELL BRACKETzcUQUETa OF FLOWERSqW AND ARROWkL OF HYGIEIAkWITH SPOONlINGeTIEa WIT
H LEFT HALF BLACKpRIGHT HALF BLACKzbX DRAWINGS DOUBLE DOWN AND HORIZONTALkLEFTeRIGHToHORIZONTALkU
P AND HORIZONTALkLEFTeRIGHTmVERTICALa AND HORIZONTALkLEFTeRIGHTxWN DOUBLE AND HORIZONTAL SINGLErLE
FT SINGLElRIGHT SINGLExHEAVY AND HORIZONTAL LIGHTqLEFT LIGHTfUP LIGHTnRIGHT LIGHTfUP LIGHToUP HORI
ZONTAL LIGHTzeLIGHT AND HORIZONTAL HEAVYqLEFT HEAVYfUP HEAVYnRIGHT HEAVYfUP HEAVYoUP HORIZONTAL HE
AVYzeSINGLE AND HORIZONTAL DOUBLErLEFT DOUBLElRIGHT DOUBLEzdHEAVY DOUBLE DASH HORIZONTALkVERTICALs
WNa AND HORIZONTALkLEFTeRIGHToHORIZONTALkLEFTa AND LIGHT RIGHTuQUADRUPLE DASH HORIZONTALkVERTICALx
RIGHTfTRIPLE DASH HORIZONTALkVERTICALuUPa AND HORIZONTALkLEFTdIGHT DOWNkRIGHTmVERTICALa AND HORIZO
NTALkLEFTeRIGHTyLEFT DOWN HEAVY AND RIGHT UP LIGHTzeHEAVY AND RIGHT DOWN LIGHTkUP LIGHTiVERTICAL L
IGHTzfLIGHT AND RIGHT DOWN HEAVYkUP HEAVYiVERTICAL HEAVYzfUP HEAVY AND RIGHT DOWN LIGHTziIGHT AR
C DOWN AND LEFTeRIGHToUP AND LEFTeRIGHTqDIAGONAL CROSSfDIAMONDhMIDDLE LEFT TO LOWER CENTREa TO MID
DLE RIGHTzdUPPER CENTRE TO MIDDLE RIGHTa TO LOWER CENTREzzcRIGHT TO LOWER CENTREmUPPER CENTRE TO M
IDDLE LEFT TO LOWER CENTREzzjUPPER CENTRE TO MIDDLE LEFTa AND MIDDLE RIGHT TO LOWER CENTREzhTO LOW
ER CENTREa TO MIDDLE RIGHTzlRIGHTa AND MIDDLE LEFT TO LOWER CENTREzgTO LOWER CENTREa TO MIDDLE LEF
TzzdLEFT TO LOWER RIGHTtRIGHT TO LOWER LEFTziOUBLE DASH HORIZONTALkVERTICALsWNa AND HORIZONTALkLEF
TeRIGHToHORIZONTALa WITH VERTICAL STROKEzgLEFTa AND HEAVY RIGHTuQUADRUPLE DASH HORIZONTALkVERTICAL
xRIGHTfTRIPLE DASH HORIZONTALkVERTICALuUPa AND HEAVY DOWNjORIZONTALkLEFTeRIGHTmVERTICALa AND HORIZ
ONTALkLEFTeRIGHTyRIGHT DOWN HEAVY AND LEFT UP LIGHTzdHEAVY AND LEFT DOWN LIGHTkUP LIGHTiVERTICAL L
IGHTzeLIGHT AND LEFT DOWN HEAVYkUP HEAVYiVERTICAL HEAVYzeUP HEAVY AND LEFT DOWN LIGHTzjUP DOUBLE A
ND HORIZONTAL SINGLErLEFT SINGLElRIGHT SINGLExHEAVY AND DOWN HORIZONTAL LIGHTvHORIZONTAL LIGHTqLEF
T DOWN LIGHTkLIGHTkRIGHT DOWN LIGHTkLIGHTvLIGHT AND DOWN HORIZONTAL HEAVYvHORIZONTAL HEAVYqLEFT DO
WN HEAVYkHEAVYkRIGHT DOWN HEAVYkHEAVYvSINGLE AND HORIZONTAL DOUBLErLEFT DOUBLElRIGHT DOUBLEzbVERTI
CAL DOUBLE AND HORIZONTAL SINGLErLEFT SINGLElRIGHT SINGLExHEAVY AND HORIZONTAL LIGHTqLEFT LIGHTkRI
GHT LIGHTvLIGHT AND HORIZONTAL HEAVYqLEFT HEAVYkRIGHT HEAVYvSINGLE AND HORIZONTAL DOUBLErLEFT DOUB
LElRIGHT DOUBLEzrING GLOVEkYaS SYMBOLkPHcRAHMI DANDAeIGIT EIGHTfFIVEdOUReNINEeONEdSEVENeIXdTHREEeW
OdZEROjOUBLE DANDAmLETTER AaAbIbUcBAbHAdCAbHAdDAbDAbHAdHAdEbGAbHAdHAcIaIcJAbHAdKAbHAdLAbLAdMAcNAbG
AcNAcYAdOaLD TAMIL LLAbLAeNNNAeRRAdSHORT EbOrPAbHAdRAcSAbHAcSAdTAbHAcTAbHAeUaUcVAbOCALIC LaLcRaRkY
AjNUMBER EIGHTaYgFIFTYdVEdORTYdUReJOINERgNINEaTYgONEa HUNDREDhTHOUSANDmSEVENaTYgIXaTYfTENcHIRTYeRE
EeWENTYeOkPUNCTUATION CRESCENT BARmDOTbUBLE DOTkLINEdOTUSrSIGN ANUSVARAiCANDRABINDUlJIHVAMULIYAlOL
D TAMIL VIRAMAqUPADHMANIYAlVISARGAmVIRAMAfOWEL SIGN AAbIbUcBHATTIPROLU AAoEbIaIcOaLD TAMIL SHORT E
bOrUaUcVOCALIC LaLcRaRzaILLE PATTERN BLANKfDOTS-1a2a3a4a5a6a7a8c8c7a8c8c6a7a8c8c7a8c8c5a6a7a8c8c7a
8c8c6a7a8c8c7a8c8c4a5a6a7a8c8c7a8c8c6a7a8c8c7a8c8c5a6a7a8c8c7a8c8c6a7a8c8c7a8c8c3a4a5a6a7a8c8c7a8c
8c6a7a8c8c7a8c8c5a6a7a8c8c7a8c8c6a7a8c8c7a8c8c4a5a6a7a8c8c7a8c8c6a7a8c8c7a8c8c5a6a7a8c8c7a8c8c6a7a
8c8c7a8c8c2a3a4a5a6a7a8c8c7a8c8c6a7a8c8c7a8c8c5a6a7a8c8c7a8c8c6a7a8c8c7a8c8c4a5a6a7a8c8c7a8c8c6a7a
8c8c7a8c8c5a6a7a8c8c7a8c8c6a7a8c8c7a8c8c3a4a5a6a7a8c8c7a8c8c6a7a8c8c7a8c8c5a6a7a8c8c7a8c8c6a7a8c8c
7a8c8c4a5a6a7a8c8c7a8c8c6a7a8c8c7a8c8c5a6a7a8c8c7a8c8c6a7a8c8c7a8c8sNdEADbK PERMITTED HEREqST-FEED
INGlVEdICKcDE WITH VEILlGE AT NIGHTmEFCASEeSeOCCOLIfKEN BARdCIRCLE WITH NORTHWEST ARROWzcHEARTjOMc
WN HEARTkSbUBBLE TEAeSfCKETeGaINESE END OF SECTIONoLETTER AbBAcCAcDAcGAcHAcJAcKAcLAcMAbPAdNAbGAbKA
dRAcYAbCAePAcRAcSAcTAcVAcYAjPALLAWAhVOWEL SIGN AEcEbIbObUtHID LETTER AbBAcDAcGAcHAcIbKAcLAcMAcNAbG
AdPAcRAcSAcTAcUbWAcYAjVOWEL SIGN IbUqILDING CONSTRUCTIONtLLETa OPERATORlHORNa WITH SOUND WAVESvSEY
EgRRITOfSa STOPfT IN SILHOUETTEoS IN SILHOUETTErTTERaFLYiYTE ORDER MARKnZANTINE MUSICAL SYMBOL AGO
GI ARGIbOTERIiGORGIbOTERIjMESIcTRIAgPOLI ARGIeGORGIpNATRICHISMAkTIKENOKYLISMAhMAjPESO EKFONITIKONk
XO NEOlLIcODERMA ARCHAIONiNEOjSTROFOI SYNDESMOS NEOnTELOUS ICHIMATOSsSa DIPLIfNEOlTHEMAhRGONbSYNTH
ETONlKTIKO DIcGAcKEcNIcPAcVOUdZOkCHAMILIbONgOREVMA ARCHAIONiNEOkROA KLITONgSPATHIgZYGOSlDASEIAfIAR
GONeSTOLI APLI MEGALIfIKRIkDIPLIfTHESEOSoESIS APLI DYO DODEKATArDIGRAMMOS EX DODEKATAvMONOGRAMMO
S TESSERA DODEKATAzdTETARTIMORIONmRIGRAMMOS OKTO DODEKATAvTIMORIONqFTOGGOS OUkGORGONa PARESTIGMENO
N ARISTERA ANOdKATOnDEXIAzaRAMMA GGjPLIa ARCHAIONnYOdEKSTREPTONjLAFRONgNARXIS KAI FTHORA VOUuDOFON
ONiPEGERMAhTERON ARGOSYNTHETONnPARAKALESMArXO EKFONITIKONpFANEROSIS DIFONIASiMONOFONIASkTETRAFONIA
SuHTORA SKLIRON CHROMA VASISzbTHORA ARCHAIONa DEYTEROU ICHOUxDIATONIKI DIcKEcNANAdI ANOdKATOhPAcZO
mENARMONIOS ANTIFONIAuI YFESIS TETARTIMORIONwMALAKON CHROMA DIFONIASiMONOFONIASzaNAOS ICHOSjENANOg
SKLIRON CHROMA SYNAFIgVASISmDIATONON DIzbGENIKI DIESISgYFESISmORGON ARCHAIONiNEO ANOdKATOiPARESTIG
MENON ARISTERAiDEXIAvSYNTHETONlTHMIKON N APLOUNgDIPLOUNtRONTHISMATAmICHADINgMIDIARGONhFONONeTHORAb
ONjSAKIA TELOUS ICHIMATOSvON ARCHAIONiNEOiKATAVA TROMIKONjSMAgHISTIhENTIMA ARCHAIONiNEO ANOdKATOeM
ESOjTAa ARCHAIONiNEO ANOdKATOeMESOrLASMAa ANOdKATOkONTEVMAa ALLOlRONISfUFISMAhRATIMA ALLOdRCHAIONi
NEOeTAdOKOUFISMAiYPORROONnEMASTIhYLISMAhLEIMMA DYO CHRONONlENOS CHRONOUmIMISEOS CHRONOUpTESSARON C
HRONONpRION CHRONONsMOIeYGISMAhMARTYRIA ALLI DEYTEROS ICHOSoPROTOS ICHOSrDEYTEROS ICHOSoLEGETOS IC
HOSnPLAGIOS ICHOSfTETARTOS ICHOSvROTOS ICHOShVARYS ICHOSqTETARTOS ICHOSfLEGETOS ICHOSvRIFONIASgTO
S ICHOSmVARYS ICHOStIKRON ISONlNANAeOLIGON ARCHAIONiNEOjMALONfXEIA DIPLIfEKFONITIKONlNEOeI ARCHAIO
NoYRANISMA ARCHAIONiNEOnPARAKALESMA ARCHAIONiNEOkLITIKIa ARCHAIONiNEOmICHONhELASTONa NEOkRISPOMENI
jTASMAcTIbOKOUFISMAoIASMA ARCHAIONiNEOjSIFISTOLYGISMAhNa NEOfPARAKALESMAlSYNAGMAmLIbONgRAPISMAgEVM
AfSAXIMATAhEISMAa NEOjIMANSIS ARSEOSa DISIMOUhTETRASIMOUjRISIMOUpTHESEOSa DISIMOUhTETRASIMOUjRISIM
OUyTAVROSa APODEXIAoIGMAeRAGGISMATAlYNAGMA ARCHAIONiMETA STAVROUmNEOiEVMAfRMAaTIKIjTELEIAeSSERAfTR
APLIhHEMAa APLOUNhTISMOS ESOcXOmS KAI APOTHESoITAeINAGMAgRIAbGORGONgPLIeOMIKOLYGISMAhN ALLOdRCHAIO
NiNEOfPARAKALESMAkSIFISTONjSYNAGMAoVAREIA DIPLIfEKFONITIKONlNEOeI ARCHAIONoTHYfXIRON KLASMAmYFEN A
NOdKATOgSIS APLI DYO DODEKATArDIGRAMMOS EX DODEKATAvMONOGRAMMOS TESSERA DODEKATAzdTRIGRAMMOS OKT
O DODEKATAvTIMORIONrPOKRISISa DIPLImRROIfSILIzgCACTUSeDA UNAfUCEUSgLENDARfL ME HANDkMERAa WITH FLA
SHoPINGfNaADIAN SYLLABICS AaAaIbYcIaVILIK BiNbTHAPASCAN MbSlYcBEAVER DENE LbRmIBLE-CREE YlLACKFOO
T AbEbIbKAbEbIbOcNAbEbIbOcObSbWaAbEbIbOmCaAaAaIcRRIER CHAbEaEcIbObUdDEEbNE GEEfTAL ShIbLAbEaEcIbOb
UcZAbEaEcIbObUdEEcGAaAcEaEcHAbEaEcIbObUcIbObUbWAbUdHaEEcIbWAbEaEcIbObUdIaNITIAL ZjJAbEaEcIbJAbEaEc
IbObUcObUbWAdKHAbEaEcIbObUcKaAbEaEcIbObUdLAbEaEcHAbEaEcIbObUcIbObUcMAbEaEcIbObUcNAbEaEcGbIbObUcPaA
bEaEcIbObUcRAbEaEcIbObUcSAbEaEcHaAbEaEcIbObUcIbObUcTHAbEaEcIbObUcLAbEaEcHAbEaEcIbObUcIbObUcSAbEaEc
IbObUcTAbEaEcIbObSAbEaEcIbObUcUdWAbEaEcIbObUcYAbEaEcIbObUcZaAbEaEcIbObUjEbHI SIGNhIaIcOaOcWAaAcEbI
aIcOaOeEaASTERN WiNcFaAaAaIdEbIaIbNAL ACUTEfBOTTOM HALF RINGqDOUBLE ACUTEfSHORT VERTICAL STROKESzc
WN TACKjGRAVEfMIDDLE DOTkPLUSeRAISED DOTjIGHT HALF RINGnNGeSHORT HORIZONTAL STROKEwMALL RINGkTOP H
ALF RINGsOaOcULL STOPiWAAeGLOTTAL STOPmHKbYPHENgIaIbNcKaAaAaIcYcEbIaIcOaOcWaAaAbYcEbIaIcOaOeLaAaAa
IcYcEbHaAaAcIaIcOaOdIaIcOaOcWAaAcEbIaIcOaOeMaAaAaIcYcEaDIAL LbRhHbIaIcOaOaSE-CREE SKmWAaAcEbIaIcOa
OeNa-CREE THEbIaIkAaAaIcSKAPI CWAAeKWAAeMWAAeNWAAeS-WcCWAdKWaAdPWAdTWAdWAAeTWAAeWAAcOOdYWAAkTTILI
K HAaAcIaIcOaOdSHRAaAcIaIcOaOmYcEbGaAaAaIcIcIaIcOaOdHbIaIcNGaAaAcIaIcOaOeOaObYcUNAVIK HaAaAcEbIaIc
OaOgUT HiWAaAcEbIaIcOaOeOaJIBWAY CbKbMbNaWIaIcOaOePbSaHcTiNbObYcPaAaAaIcYcEbIaIcOaObYcWAaAcEbIaIcO
aObYeQaAaAaIcIcIaIcOaOdRa-CREE REbWEjAaAaIcYcEbIaIcOaOcWAaAcEEcIaIcOaOeSaAaAaIcYaISI HAbEbIbOaOdJI
bUaUdMbSHAbEbIbOaOcWEeTHcYIiEbHaAaAbYcEbIaIcOaObYcWAaAcEbIaIcOaObYeIaIcOaObUTH-SLAVEY KAHcEHcIHcOH
oYcPAbEbIbOcWaAaAcEbIaIcOaOeTaAaAaIcYcEbHa-CREE THaAaAcEbIaIcOaOkAaAcEbIaIcOaOcWAaAcEdIaIcLHAbEbIb
OaOcWEeOaOcTAbEbHaAaAcEbIbOaOcWEdIbOcWAaAcEbIaIcOaOdYAbEbIbOdWAaAbYcEaST-CREE CWAaAcEbIaIcOaOeFWAA
eKWAaAcEbIaIcOaOeLaAaAcEbOaOcWAaAcEbIaIcOaOeMaWAaAcEbIaIcOaOeNWAaAcEdPaWAaAcEbIaIcOaOeRaAbEbIbObWA
AeSHWAaAcEbIaIcOaOeWAaAcEbIaIcOaOeTHWAAeWAaAcEbIaIcOaOeWAaAcEbIaIcOaOdYaWAaAcEbIaIcOaOkERN WiIaIcO
aOaDS-CREE FINAL THiTHaAbEbIbObWAaAcEEcIaIcOaOqYa-CREE COOdKOOdLOOdMOOdNOOdOOcPOOcWAAeSOOdTOOdWbYO
OjAaAaIcYcEbIaIcOaObYcWAaAcEbIaIcOaOuCELa CHARACTERjTAGeLATION XjRdDLEcYcNED FOODiOEdPITULUMgRICOR
NhR SLIDINGiD FILE BOXiINDEXa DIVIDERSqE OFdTa INSERTION POINTsIAN LETTER Aa2cBbC-18c39eDa2cEa2cGa
2cIaIcKa2cLaDa2dMaBa2b3b4dNaDbGbNcObPa2cQbRaRcSaHa2cSbTa2dTaTa2dUaUaUa2b3bUeXmONbUSEL HORSElP STRE
AMERjENTRY SAWkRIAGE RETURNlOTeSTLEeTa FACEa WITH TEARS OF JOYmWRY SMILEvUCASIAN ALBANIAN CITATIO
N MARKnLETTER ALTcORdBETdCARbYNdHAaTcIbOYdYAWbYeDATcYANdZAYcYAYfEBbYNdFAMdGHEYSeIMdHEYTeINYAdRBcWN
dJAYNdHOXeKARcIWdLANcYITeMAQdNOWCeONcPENcIWReQARbYdRATdSEYKdHAaKcOYeTAScIWRdYAYeVEYZeXEYNeYAYDdOWD
eZARLdHAbILzcTION SIGNlCHcEDI SIGNfLLAfLTIC CROSSkNT SIGNfRE LINE SYMBOLmLINE LOW LINEiOVERLINErRE
SeGJcHAINScRcKMA AU MARKhDANDAeIGIT EIGHTfFIVEdOUReNINEeONEdSEVENeIXdTHREEeWOdZEROjOUBLE DANDAmLET
TER AAcBAAcHAAeCAAcHAAeDAAcDAAcHAAeHAAeEbGAAcHAAeHAAdIbJAAcHAAeKAAcHAAeLAAcHAAeMAAdNAAcGAAdNAAdYAA
ePAAcHAAeRAAdSAAdTAAcHAAdTAAcHAAfUbVAAdWAAdYAAcYAAlMAAYYAAhO MARKgQUESTION MARKnSECTION MARKlIGN A
NUSVARAiCANDRABINDUlVISARGAmVIRAMAfOWEL SIGN AaAbIbUcEaIcIaIcOaIcUaUrM CONSONANT SIGN FINAL HbMbNG
iLAcRAcWAcYArDIGIT EIGHTfFIVEdOUReNINEeONEdSEVENeIXdTHREEeWOdZEROkLETTER AaIcBAbBAcHAdCHAbHAeDAbDA
cHAdEbFINAL CHcGbKbLbNaGcPbRbSScTbYhGAbHAdHAcIbJAbHAdKAbHAdLAcMAbUEdNAbGAbUEdHAbJAcUEdUEdObPAbHAcP
AdRAcSAbSAdTAbHAdUbVAcYAjPUNCTUATION DANDAeOUBLE DANDAmSPIRALgTRIPLE DANDAyVOWEL SIGN AAbIbUcEIcIa
IcOaEcUaEpRACTER TABULATIONa SETdWITH JUSTIFICATIONzdIEjT WITH DOWNWARDS TRENDpUPWARDS TRENDa AN
D YEN SIGNzkECK MARKfER BOARDa FILLpERING MEGAPHONEoSE WEDGEjQUERED FLAGlROKEE LETTER AbDAbEbIbLAc
ObUbVcEbGAbEbIbObUbVcHAbEbIbNAcObUbVcIbKAcLAbEbIbObUbVcMAbEbIbObUbVcNAaHcEbIbObUbVcObQUAbEbIbObUbV
dSaAbEbIbObUbVcTAbEbIbLAbEbIbObUbVcSAbEbIbObUbVdUbVbWAbEbIbObUbVcYAbEbIbObUbVjSMALL LETTER AbDAbEb
IbLAcObUbVcEbGAbEbIbObUbVcHAbEbIbNAcObUbVcIbKAcLAbEbIbObUbVcMAbEbIbObUbVcNAaHcEbIbObUbVcObQUAbEbIb
ObUbVdSaAbEbIbObUbVcTAbEbIbLAbEbIbObUbVcSAbEbIbObUbVdUbVbWAbEbIbObUbVcYAbEbIbObUbVuRIESdY BLOSSOMl
STNUTgI RHOeCKENeLDaREN CROSSINGoPMUNKfRONeOCOLATE BARkPSTICKShRASMIAN LETTER ALEPHeYINeBETHeCURLE
D WAWkDALETHgGIMELfHEaTHeKAPHeLAMEDHgMEMdNUNdPEcRESHeSAMEKHfHINdMALL ALEPHlTAWdWAWdYODHeZAYINmNUMB
ER FOUReONEa HUNDREDlTENcHREEeWENTYeOtRISTMAS TREEmURCHfINEMAeRCLE DIVIDED BY HORIZONTAL BAR AND T
OP HALF DIVIDED BY VERTICAL BARzzmWITH ALL BUT UPPER LEFT QUADRANT BLACKziHORIZONTAL BARoLEFT HAL
F BLACKoOWER HALF BLACKqRIGHT HALF BLACKqSMALL CIRCLE TO THE RIGHTyUPERIMPOSED XoTWO HORIZONTAL ST
ROKES TO THE RIGHTzkUPPER HALF BLACKkRIGHT QUADRANT BLACKzbVERTICAL FILLtD ANTICLOCKWISE ARROWg-RO
TATED DIVISION SIGNzjSTERISK OPERATORrBOLD XfULLETgC WITH OVERLAID BACKSLASHyCbDbROSS FORMEEa WIT
H FOUR DOTSjTWO DOTSuPOMMEEhING LANESoDASHdIGIT EIGHTfFIVEdOUReNINEeONEdSEVENeIXdTHREEeWOdZEROiVIS
ION SIGNdLASHnOLLAR SIGN WITH OVERLAID BACKSLASHziT OPERATORmEQUALSgGREATER-THANmHANGUL CHIEUCHa A
iIEUCa AhHIEUHa AhIEUNGa AbUhKHIEUKHa AiIYEOKa AiMIEUMa AhNIEUNa AhPHIEUPHa AiIEUPa AhRIEULa AhSIO
Sa AgTHIEUTHa AiIKEUTa AoEAVY WHITE RIGHTWARDS ARROWzcORIZONTAL BAR WITH NOTCHyUMAN FIGUREmIDEOGRA
PH ACCEPTfDVANTAGEiLLIANCEhTTENTIONjCENTREfONGRATULATIONmPYcRRECThEARTHeIGHTeNTERPRISEjXCELLENTjFE
MALEfINANCIALhREcVEdOUReHAVEdIGHeITEMeKINDERGARTENlOTOeLABOReEFTdOWdMALEdEDICINEgTALeOONeNAMEdIGHT
dNEeONEdPRINTfQUESTIONiRELIGIONgSOURCEfTdIGHTfSCHOOLfECRETeVENeIXcOCIETYgPECIALgTOCKdUDYeUITABLEgN
bPERVISEjTENcHREEeWOdWATEReOODnNFORMATION SOURCErTALIC LATIN CAPITAL LETTER CbRzeKATAKANA AbEbHAbE
bIbObUcIbKAbEbIbObUcMAbEbIbObUcNAbEbIbObUcObRAbEbIbObUcSAbEbIbObUcTAbEbIbObUcUbWAbEbIbOcYAbObUkORE
AN CHARACTER CHAMKOgJUEUIwLATIN CAPITAL LETTER AbBbCbDbEbFbGbHbIbJbKbLbMbNbObPbQbRbSbTbUbVbWbXbYbZ
qSMALL LETTER AbBbCbDbEbFbGbHbIbJbKbLbMbNbObPbQbRbSbTbUbVbWbXbYbZtESS-THANjMINUSeULTIPLICATION SIG
N WITH CIRCUMFLEX ACCENTzrNUMBER EIGHTEENdY ON BLACK SQUAREvLEVENgFIFTEENdYa ON BLACK SQUAREuORTY
a EIGHTfFIVEdOUReNINEeON BLACK SQUAREnEdSEVENeIXdTHREEeWOhURTEENiNINETEENiSEVENTEENdY ON BLACK SQU
AREwIXTEENdY ON BLACK SQUAREvTENa ON BLACK SQUAREsHIRTEENdYa EIGHTfFIVEdOUReNINEeON BLACK SQUAREnE
dSEVENeIXdTHREEeWOjWELVEdNTYa EIGHTfFIVEdOUReNINEeON BLACK SQUAREnEdSEVENeIXdTHREEeWOrOPEN CENTR
E EIGHT POINTED STARzfPARALLELhERPENDICULARmLUSdOSTAL MARKlREVERSE SOLIDUSoING OPERATORnSQUAREgTIM
ESeRIANGLEa DOWNnVERTICAL BARmWHITE BULLETgSTARjZcXbZERO WITH SLASHtULATION FUNCTIONpMFLEX ACCENTm
S TENTjTYSCAPEa AT DUSKqJK COMPATIBILITY IDEOGRAPH-2F800b1b2b3b4b5b6b7b8b9bAbBbCbDbEbFc10b1b2b3b4b
5b6b7b8b9bAbBbCbDbEbFc20b1b2b3b4b5b6b7b8b9bAbBbCbDbEbFc30b1b2b3b4b5b6b7b8b9bAbBbCbDbEbFc40b1b2b3b4
b5b6b7b8b9bAbBbCbDbEbFc50b1b2b3b4b5b6b7b8b9bAbBbCbDbEbFc60b1b2b3b4b5b6b7b8b9bAbBbCbDbEbFc70b1b2b3b
4b5b6b7b8b9bAbBbCbDbEbFc80b1b2b3b4b5b6b7b8b9bAbBbCbDbEbFc90b1b2b3b4b5b6b7b8b9bAbBbCbDbEbFcA0b1b2b3
b4b5b6b7b8b9bAbBbCbDbEbFcB0b1b2b3b4b5b6b7b8b9bAbBbCbDbEbFcC0b1b2b3b4b5b6b7b8b9bAbBbCbDbEbFcD0b1b2b
3b4b5b6b7b8b9bAbBbCbDbEbFcE0b1b2b3b4b5b6b7b8b9bAbBbCbDbEbFcF0b1b2b3b4b5b6b7b8b9bAbBbCbDbEbFd900b1b
2b3b4b5b6b7b8b9bAbBbCbDbEbFc10b1b2b3b4b5b6b7b8b9bAbBbCbDbEbFc20b1b2b3b4b5b6b7b8b9bAbBbCbDbEbFc30b1
b2b3b4b5b6b7b8b9bAbBbCbDbEbFc40b1b2b3b4b5b6b7b8b9bAbBbCbDbEbFc50b1b2b3b4b5b6b7b8b9bAbBbCbDbEbFc60b
1b2b3b4b5b6b7b8b9bAbBbCbDbEbFc70b1b2b3b4b5b6b7b8b9bAbBbCbDbEbFc80b1b2b3b4b5b6b7b8b9bAbBbCbDbEbFc90
b1b2b3b4b5b6b7b8b9bAbBbCbDbEbFcA0b1b2b3b4b5b6b7b8b9bAbBbCbDbEbFcB0b1b2b3b4b5b6b7b8b9bAbBbCbDbEbFcC
0b1b2b3b4b5b6b7b8b9bAbBbCbDbEbFcD0b1b2b3b4b5b6b7b8b9bAbBbCbDbEbFcE0b1b2b3b4b5b6b7b8b9bAbBbCbDbEbFc
F0b1b2b3b4b5b6b7b8b9bAbBbCbDbEbFdA00b1b2b3b4b5b6b7b8b9bAbBbCbDbEbFc10b1b2b3b4b5b6b7b8b9bAbBbCbDfF9
00b1b2b3b4b5b6b7b8b9bAbBbCbDbEbFc10b1b2b3b4b5b6b7b8b9bAbBbCbDbEbFc20b1b2b3b4b5b6b7b8b9bAbBbCbDbEbF
c30b1b2b3b4b5b6b7b8b9bAbBbCbDbEbFc40b1b2b3b4b5b6b7b8b9bAbBbCbDbEbFc50b1b2b3b4b5b6b7b8b9bAbBbCbDbEb
Fc60b1b2b3b4b5b6b7b8b9bAbBbCbDbEbFc70b1b2b3b4b5b6b7b8b9bAbBbCbDbEbFc80b1b2b3b4b5b6b7b8b9bAbBbCbDbE
bFc90b1b2b3b4b5b6b7b8b9bAbBbCbDbEbFcA0b1b2b3b4b5b6b7b8b9bAbBbCbDbEbFcB0b1b2b3b4b5b6b7b8b9bAbBbCbDb
EbFcC0b1b2b3b4b5b6b7b8b9bAbBbCbDbEbFcD0b1b2b3b4b5b6b7b8b9bAbBbCbDbEbFcE0b1b2b3b4b5b6b7b8b9bAbBbCbD
bEbFcF0b1b2b3b4b5b6b7b8b9bAbBbCbDbEbFdA00b1b2b3b4b5b6b7b8b9bAbBbCbDbEbFc10b1b2b3b4b5b6b7b8b9bAbBbC
bDbEbFc20b1b2b3b4b5b6b7b8b9bAbBbCbDbEbFc30b1b2b3b4b5b6b7b8b9bAbBbCbDbEbFc40b1b2b3b4b5b6b7b8b9bAbBb
CbDbEbFc50b1b2b3b4b5b6b7b8b9bAbBbCbDbEbFc60b1b2b3b4b5b6b7b8b9bAbBbCbDc70b1b2b3b4b5b6b7b8b9bAbBbCbD
bEbFc80b1b2b3b4b5b6b7b8b9bAbBbCbDbEbFc90b1b2b3b4b5b6b7b8b9bAbBbCbDbEbFcA0b1b2b3b4b5b6b7b8b9bAbBbCb
DbEbFcB0b1b2b3b4b5b6b7b8b9bAbBbCbDbEbFcC0b1b2b3b4b5b6b7b8b9bAbBbCbDbEbFcD0b1b2b3b4b5b6b7b8b9zdRADI
CAL BAMBOOfLUEdOLT OF CLOTHlNEcXcRUSH ONEdTWOjC-SIMPLIFIED BIRDeCARTeDRAGONgEATcVENeFISHdLYcROGeGA
TEdOLDeHORSEfLEAFdONGeSALTdEEcHELLeILKdPEECHgTANNED LEATHERnOOTHeURTLEgWINDqHOKEeITYcVILIANhLIFFdO
THESgOWdDEATHeIVINATIONjOGdEAT ONEdTHREEeWOgWEcYEdFIREdOOTeGHOSTeRASS ONEdTHREEeWOjHANDdEADbRT ONE
dTWOiORNeJ-SIMPLIFIED DRAGONgEVENeTOOTHeURTLEsADEeKNIFE ONEdTWOjLAME FOUReONEdTHREEeWOhONG ONEdTWO
iMEATcSHdOONcRTAReTHEReUND ONEdTWOjNET FOUReONEdTHREEeWOhOLDdPAW ONEdTWOgERSONgRAINcMbPcEPEATgSEAL
cCOND ONEdTHREEeWOjHEEPeILKcMPLIFIED HALF TREE TRUNKoORNeWALKdHEATfYELLOWqMALL ONEdTWOiNAKEdOUT ON
EdTWOiPIRIT ONEdTWOjUNdTABLEeHREADfIGEReURTLEgWALK ONEdTWOgTER ONEdTWOiEST ONEdTWOqSTROKE BXGdDbHa
GbPaWGdXWGdZaGbTbWaGcZaPbZaGfNbPaDbGbZcQbSaGbPbTbWaGbZcZaWGcZdTaNcWGcXGmLAMSHELL MOBILE PHONEtPPE
R BOARDiING HANDS SIGNqSSICAL BUILDINGqEAR SCREEN SYMBOLrINKING BEER MUGSjGLASSESnPBOARDhOCK FAC
E EIGHT OCLOCKh-THIRTYlLEVEN OCLOCKh-THIRTYnFIVE OCLOCKh-THIRTYkOUR OCLOCKh-THIRTYlNINE OCLOCKh-TH
IRTYlONE OCLOCKh-THIRTYkSEVEN OCLOCKh-THIRTYlIX OCLOCKh-THIRTYkTEN OCLOCKh-THIRTYjHREE OCLOCKh-THI
RTYlWELVE OCLOCKh-THIRTYlO OCLOCKh-THIRTYqWISE CLOSED CIRCLE ARROWsONTOUR INTEGRALqDOWNWARDS AND U
PWARDS OPEN CIRCLE ARROWSzpGAPPED CIRCLE ARROWtINTEGRALiOPEN CIRCLE ARROWrRIGHT AND LEFT SEMICIRCL
E ARROWSzcWARDS AND LEFTWARDS OPEN CIRCLE ARROWSa WITH CIRCLED ONE OVERLAYzzsTOP SEMICIRCLE ARROWt
RIANGLE-HEADED OPEN CIRCLE ARROWzpSE UPdD BOOKeINTERSECTION WITH SERIFSyLOCK WITH KEYnMAILBOX WIT
H LOWERED FLAGmRAISED FLAGySUBSETa OR EQUAL TOqPERSETa OR EQUAL TOuUMBRELLAhNION WITH SERIFSa AN
D SMASH PRODUCTzoUDa WITH LIGHTNINGjRAINeSNOWeTORNADOpWN FACEjOATcCKROACHfTAIL GLASSlONUTfFFINeINc
LLISION SYMBOLnONa EQUALSgSIGNiMBINING ACUTE ACCENTa BELOWmTONE MARKk-GRAVE-ACUTElMACRONlLMOST EQU
AL TO ABOVEfBELOWuNNUITY SYMBOLmTICLOCKWISE ARROW ABOVElRING OVERLAYzaSTERISK ABOVEfBELOWoBINDU BE
LOWkREVEa BELOWg-MACRONkIDGE ABOVEfBELOWmCANDRABINDUjRONa BELOWkEDILLAgIRCUMFLEX ACCENTa BELOWwLOC
KWISE ARROW ABOVElRING OVERLAYvOMMA ABOVEa RIGHTlBELOWjNJOINING MACRONa BELOWwYRILLIC DASIA PNEUMA
TAoHUNDRED MILLIONS SIGNnTHOUSANDS SIGNwKAVYKAgLETTER AbBEbIG YUShCHEdDEbJERVfEFbLbMbNbRbSa-TEfFIT
AeGHEdHAaRD SIGNjIaEbOTIFIED AbBIG YUShEkKAcLITTLE YUSkMONOGRAPH UKmOaMEGAfPEcSHAbCHAeOFT SIGNjTEb
SEdUaKRAINIAN IEmVEcYATcERUdIbUcZEbHEkMILLIONS SIGNnPALATALIZATIONmYEROKgOKRYTIEhSILI PNEUMATAoTE
N MILLIONS SIGNqHOUSAND MILLIONS SIGNvITLOa LEFT HALFjRIGHT HALFqVZMEToDELETION MARKlVANAGARI DIGI
T EIGHTfFIVEdOUReNINEeONEdSEVENeIXdTHREEeWOdZEROkLETTER AbKAcNAcPAcRAcUbVIjSIGN AVAGRAHAxIAERESIS
a BELOWg-RINGnOT ABOVEa LEFTeRIGHTlBELOWa LEFTlTED ACUTE ACCENTmGRAVE ACCENTrUBLE ACUTE ACCENTmBRE
VEa BELOWlCIRCUMFLEX ABOVEqGRAVE ACCENTmINVERTED BREVEa BELOWuLOW LINEiMACRONa BELOWmOPEN MARK BEL
OWoVERLINEiPARENTHESES ABOVEqLUS SIGN ABOVEfBELOWpRIGHTWARDS ARROW BELOWuNG BELOWkTILDEa LEFT HALF
jRIGHT HALFqVERTICAL LINE ABOVEfBELOWkSTROKE OVERLAYyD CIRCUMFLEX ACCENTxWN TACK BELOWlWARDS ARROW
pENCLOSING CIRCLEa BACKSLASHqDIAMONDhKEYCAPgSCREENfQUAREgUPWARD POINTING TRIANGLEziQUALS SIGN BELO
WrFERMATAgOUR DOTS ABOVEpGLAGOLITIC LETTER AZUdBIG YUSgUKYeCHRIVIgDJERVIfOBROfFITAdRITUfGLAGOLIhHE
RUeIaNITIAL IZHElOTATED BIG YUShSMALL YUSqZHEeKAKOeLJUDIJEhMYSLITEhNASHIfONUdPOKOJIgRITSIfSHAbTAdL
OVOeMALL YUSjTSIcVRIDOgUKUdVEDEeYATIdERIbUcSTUeObUcZEMLJAfHIVETEyRANTHA DIGIT FIVEdOUReONEdSIXdTHR
EEeWOdZEROkLETTER AbKAcNAcPAcVIoPHEME JOINERmVE ACCENTa BELOWmTONE MARKk-ACUTE-GRAVElMACRONkEEK DI
ALYTIKA TONOSpKORONIShMUSICAL PENTASEMEjTETRASEMEiRISEMEpPERISPOMENIlYPOGEGRAMMENItHOMOTHETIC ABOV
EoOK ABOVEiRNeINFINITYgVERTED BREVEa BELOWjIDGE BELOWmDOUBLE ARCH ABOVEfBELOWzaS BELOWiKATAKANA-HI
RAGANA SEMI-VOICED SOUND MARKwVOICED SOUND MARKziVYKA ABOVE LEFTeRIGHTsLATIN LETTER SMALL CAPITA
L GbLbMbNbRwSMALL LETTER Aa WITH DIAERESISpEbLPHAeObVcBaETAeCa CEDILLAjDbEaSHcTHdFaLATTENED OPE
N A ABOVEwGbHbIaNSULAR DbGbRbTjKbLa WITH DOUBLE MIDDLE TILDEzaONG SgMbNbOa WITH DIAERESISjLIGHT CE
NTRALIZATION STROKEzjPbRa BELOWfROTUNDAjSaCHWAfTaURNED W BELOWoUa WITH DIAERESISjLIGHT CENTRALIZAT
ION STROKEzjVbWa BELOWhXbZtEFT ANGLE ABOVEfBELOWkRROW ABOVEfBELOWgHEAD ABOVEfBELOWpHALF RING ABOVE
fBELOWnRPOON ABOVEnPARENTHESIS ABOVE LEFTkBELOW LEFTwRIGHT ARROW ABOVEfBELOWrTACK BELOWlWARDS ARRO
W OVERLAYnHARPOON WITH BARB DOWNWARDSzlIGATURE LEFT HALFa BELOWpRIGHT HALFa BELOWwHT CENTRALIZATIO
N STROKE BELOWzhONG DOUBLE SOLIDUS OVERLAYwSOLIDUS OVERLAYoTROKE OVERLAYoVERTICAL LINE OVERLAYyW L
INEiMACRONa BELOWfLEFT HALFa BELOWpRIGHT HALFa BELOWr-ACUTEfBREVEfGRAVElINUS SIGN BELOWqNOT TILD
E ABOVEoUMBER SIGN ABOVErOGONEKa ABOVElLD PERMIC LETTER ANcDOIdNENOEfSIIdZATAvPEN MARK BELOWoVERLI
NEiPALATALIZED HOOK BELOWuRENTHESES ABOVEfBELOWfOVERLAYsLUS SIGN ABOVEfBELOWpRETROFLEX HOOK BELOWs
VERSE SOLIDUS OVERLAYqD COMMA ABOVEtIGHT ARROW ABOVEfBELOWgHEAD ABOVEeND DOWN ARROWHEAD BELOWuUP A
RROWHEAD BELOWwBELOWpHALF RING ABOVEfBELOWnRPOON ABOVEnPARENTHESIS ABOVE RIGHTlBELOW RIGHTxTACK BE
LOWlWARDS HARPOON WITH BARB DOWNWARDSzlNG ABOVEfBELOWfOVERLAYmSEAGULL BELOWmHORT SOLIDUS OVERLAYoT
ROKE OVERLAYoVERTICAL LINE OVERLAYzbNAKE BELOWkQUARE BELOWeRACKETS ABOVEuTRONG CENTRALIZATION STRO
KE BELOWziUSPENSION MARKpTHREE DOTS ABOVEpILDEa BELOWfLEFT HALF BELOWpOVERLAYhRIGHT HALF BELOWvRIP
LE ACUTE ACCENTmDOTdUNDERDOToURNED COMMA ABOVEsUP TACK ABOVEfBELOWlWARDS ARROW BELOWsR ABOVEhS ABO
VEiVERTICAL LINE ABOVEfBELOWkTILDEoWIDE BRIDGE ABOVEmINVERTED BRIDGE BELOWyGGLY LINE BELOWrX ABOVE
fBELOWg-X BELOWjZIGZAG ABOVEfBELOWtETcMAbERCIAL ATcMINUS SIGNsPASSdLEMENTgOSITION SYMBOLoRESSIONjN
FETTI BALLjOUNDED FACElUSED FACEkGRUENT WITH DOT ABOVEvICAL TAPERkJUNCTIONiSTRUCTION SIGNeWORKERqT
AINS AS MEMBERgNORMAL SUBGROUPa OR EQUAL TOzfWITH LONG HORIZONTAL STROKEwOVERBARhVERTICAL BAR AT E
ND OF HORIZONTAL STROKEzzaINUOUS UNDERLINE SYMBOLxOUR INTEGRALmROL KNOBSfSEQUENCE INTRODUCERyVENIE
NCE STOREpOKED RICEhIEbNGfPTIC CAPITAL LETTER AKHMIMIC KHEImLFAeBOHAIRIC KHEInCROSSED SHEIkYPTOGRA
MMIC EIEdGANGIAgNIcSHEIsDALDAeEIcIALECT-P ALEFeHORIeKAPAeNImEIEdFEIcIcGAMMAdNGIAgHATEdORIeIAUDAfKA
PAdHEIcIcSIdL-SHAPED HAkAULAfMIcNIcOaLD COPTIC AINdDJAdESHdGANGIAgHAaTcEIcORIeOOUdSHEIcIMAmNUBIA
N NGIcYIdSHIMAfWAUnOUdPIbSIdROcSAMPIeHEIcIMAeIMAdOUdTAUcHETHEgUAcVIDAeZATAsOMBINING NI ABOVEiSPIRI
TUS ASPERfLENISyEPACT DIGIT EIGHTfFIVEdOUReNINEeONEdSEVENeIXdTHREEeWOjNUMBER EIGHT HUNDREDiYgFIFTY
dVE HUNDREDlORTYdUR HUNDREDmNINE HUNDREDiTYgONE HUNDREDlSEVEN HUNDREDiTYgIX HUNDREDiTYfTENcHIRTYeR
EE HUNDREDmWENTYeO HUNDREDsTHOUSANDS MARKuFRACTION ONE HALFqULL STOPjMORPHOLOGICAL DIVIDERvOLD NUB
IAN DIRECT QUESTION MARKuFULL STOPjINDIRECT QUESTION MARKwVERSE DIVIDERySMALL LETTER AKHMIMIC KHEI
mLFAeBOHAIRIC KHEInCROSSED SHEIkYPTOGRAMMIC EIEdGANGIAgNIcSHEIsDALDAeEIcIALECT-P ALEFeHORIeKAPAeNI
mEIEdFEIcIcGAMMAdNGIAgHATEdORIeIAUDAfKAPAdHEIcIcSIdL-SHAPED HAkAULAfMIcNIcOaLD COPTIC AINdDJAdESHd
GANGIAgHAaTcEIcORIeOOUdSHEIcIMAmNUBIAN NGIcYIdSHIMAfWAUnOUdPIbSIdROcSAMPIeHEIcIMAeIMAdOUdTAUcHETHE
gUAcVIDAeZATAqYMBOL KAIcHI ROgMI ROfPI ROfSHIMA SIMAjTAUROShTAU ROrYLEFT SYMBOLlRIGHT SIGNmRALcNIS
H VERSE DIVIDERsRESPONDS TOmUCH AND LAMPlNTERBOREeSINKgING ROD TENS DIGIT EIGHTfFIVEdOUReNINEeONEd
SEVENeIXdTHREEeWOoUNIT DIGIT EIGHTfFIVEdOUReNINEeONEdSEVENeIXdTHREEeWOyPLE WITH HEARTpWa FACEhRaAB
cEDIT CARDiSCENT MOONlICKETa BAT AND BALLsOCODILEgISSANTgSS MARKeOF JERUSALEMjLORRAINElPATTY WIT
H LEFT CROSSBARnRIGHT CROSSBARyOMMEEa WITH HALF-CIRCLE BELOWzfED FLAGSfNEGATIVE SQUARED LATIN CAPI
TAL LETTER PzoSWORDSjING LANESlWNdUTCHdZEIRO SIGNlYING CAT FACEiFACEiSTAL BALLlSIcUBE ROOThCUMBERg
NEIFORM NUMERIC SIGN EIGHT ASHdDISHeGESH2fSHAR2fUa VARIANT FORMoVARIANT FORM USSUa3xLAMITE FIFTYeO
RTYfONE THIRDjTWO THIRDSsFIVE ASHa TENUiBAN2a VARIANT FORMqURUeDISHeGESH2bUfSHAR2bUeIXTHS DISHlU
a VARIANT FORMsOUR ASHa TENUiBAN2a VARIANT FORMqURUeDISHeGESH2bUfSHAR2bUfUa VARIANT FORMoVARIANT F
ORM LIMMUa AbBc4yNIGIDAESHdMINhNE ASHdDISHeGESH2fSHAR2fUa VARIANT FORMoVARIANT FORM ILIMMUa Ac3b4z
aOLD ASSYRIAN ONE QUARTERhSIXTHvNE BAN2dURUeEIGHTH ASHjSHE3fGESH2bUfHALF GURiQUARTER ASHdGURlSHARU
fTHIRD DISHeVARIANT FORM AySEVEN ASHdDISHeGESH2fSHAR2fUa VARIANT FORMoVARIANT FORM IMIN AbBc3xHAR
2 TIMES GAL PLUS DISHeMINxIX ASHa TENUiDISHeGESH2fSHAR2fUa VARIANT FORMoVARIANT FORM ASH9vTHREE AS
Ha TENUiBAN2dURUa VARIANT FORMrDISHeGESH2bUfSHAR2a VARIANT FORMoUa VARIANT FORMsVARIANT FORM ESH16
c21xWO ASHa TENUiBAN2dURUeESHE3fGESH2bUfSHAR2bUfTHIRDS DISHeVARIANT FORM AznPUNCTUATION SIGN DIAGO
NAL COLONfQUADCOLONjTRICOLONrOLD ASSYRIAN WORD DIVIDERzaVERTICAL COLONzgSIGN Aa TIMES AbBADdGAN2 T
ENUjHAcIGIdLAGAR GUNUkMUSHeSAGk2bBa GUNUeTIMES ASH2eDUN3 GUNUjGALbN2 TENUjHAcIGI GUNUhMINeLAGABfNU
Na TENUiSHESHdU2eU PLUS U PLUS Uw2a TIMES AbBALAGfGAN2 TENUjME PLUS ENkSHA3eTAK4nDa TIMES ESH2mK
a TIMES ERIN2fSHITA PLUS GISHxLa TIMES ALcDIM2eGISHeHAcKAD3dIcSHEdUSHkANcEPHeMARa TIMES KUGdSHEnN
a OVER ANhPLUS NAGA OPPOSING AN PLUS NAGAvSQUAREDrTHREE TIMESmSHEePINdRADa TIMES KURmKABeSAL2dHa K
ABA TENUjOVER ASH OVER ASHa CROSSING ASH OVER ASH OVER ASHzoTUG2 OVER TUG2 TUG2 OVER TUG2 PAPzrZID
A TENUk2bGABgBAaDa TIMES DISH TENUrG3cHAR2a TIMES AB2dNIcZAnLa OVER BALjAGdRaA2eIa TIMES AbGARdIG
I GUNUqUa CROSSING BUlOVER BU ABcTIMES NA2jUNlLUGa OVER BULUGoRa2eDAa TIMES TAK4lGa KISIM5 TIME
S A PLUS MASHkMAReBALAGeIcGAa PLUS MASHlIaR2dUDdHAcIRa PLUS LUkKAKdLAbUa PLUS MASH2lMdNEcPAP PLU
S PAPmSIcTAK4eU2 PLUS GIR2eMASHlSHqTIMES KURk3cMbRaA3b4eIaBbMa TIMES IGIdSHEdU U Um2a TIMES UDlN
a KASKAL U GUNU DISHuSHa PLUS SHUmUa GUNUeOVER DUhSHESHIGiBa TIMES ESH2eSHEk2cGa TIMES ANSHEeSHa A
T LEFTlDINcUNdERIN2fGAbIaR2 GUNUhSHeHAbIcIGI GUNUiKASKALfURbSHU2a PLUS KASKALsLAK-020fMa TIMES KUR
mUH PLUS GISHnMASHdEScIcNIcPIcSHEcI GUNUoUDdHbNa3a GUNUa GUNUl4cR2eEa OVER E NUN OVER NUNtTIMES PA
Pk2a TIMES A PLUS HA PLUS DArGARdKURdMIcPAPdSALcHEdUjDINdGIRdLbNa CROSSING ENlOPPOSING ENlSQUAREDh
TIMES GAN2a TENUjMEkRENcIN2a XgSH2a CROSSING ESH2rZENa SHESHIG TIMES ASHdHIcIGI GUNUiLAaLdMEaSdSUq
TIMES Aa PLUS LALa TIMES LALtNcBADdDUN3 GUNUa GUNUoGUDdHAa GUNUhIGI GUNUiKASKALa SQUAREDnU3dLAaL T
IMES LALmIbUcSHEcUcU2bDnGAa GUNUf2a OVER GA2iTIMES A PLUS DA PLUS HAkHAcIGIjB2 TENU PLUS TABqNa PL
US KAK PLUS ArSHa2a PLUS GALnBADbHAR2eR PLUS RAkURa PLUS RAlDAbIaM GUNUeTIMES SHEmUBbG TIMES IGI G
UNUiKASKALqELa PLUS LAjNa TIMES GAN2 TENUrRENeGAaN2 TENUhRa PLUS DIcNEkIa4a PLUS AiR2 PLUS SUmHA P
LUS AbLU PLUS ESH2sLa PLUS LAkI PLUS LIjUB2eIGI GUNUhSH PLUS HU PLUS ASHuKAKbSKALfIDa PLUS LALlU
3 PLUS ANjSHU2 PLUS KASKALsLAaMa TIMES KURmUHdME PLUS ENjIbUSHeNEa PLUS E2cGIjUNa OVER NUNmPAcSALb
RcHEa PLUS TURkIDbMdUMdTAK4eUaDa PLUS DUkZIZ2mBAa CROSSING GABAnROTATED NINETY DEGREESzaDa OVER GA
D GAR OVER GARxLa GAD OVER GAD GAR OVER GARzbAMdMbNa2a CROSSING GAN2nOVER GAN2jTENUhRa3cSHANfE22cS
HTINa TIMES KURdUoIa CROSSING GIlTIMES EbUi4a CROSSING GI4mOVER GI4kDIMdGbR2a GUNUg3a TIMES A PLU
S IGIkGAN2 TENUjIGIdLU PLUS IGIlPAlSALcHa CROSSING GISHnTENUdIMES BADdGISH CROSSING GISHsTAK4oUa C
ROSSING GUm2a GUNUeTIMES IGI GUNUiKAKa TIMES IGI GUNUsNUNdSAL PLUS TUG2vDa OVER GUD LUGALoPLUS GIS
H TIMES TAK4uTIMES A PLUS KURkKURlLbMa TIMES SHElRa7bUNbSHgHAa GUNUeTENUa GUNUkLcIa TIMES ASHa OVE
R HI TIMES ASHs2eBADdDISHeGADdKINdNUNdSHEdUjUaB2a TIMES ANcHALdKASKALgLISHeUDlL2cSHeIa AcBbDIMa OV
ER IDIM BURdSQUAREDvGaIa DIBdGUNUeOVER IGI SHIR OVER SHIR UD OVER UDzjRIfLa TIMES GAN2 TENUq2cMa C
ROSSING IMlOPPOSING IMlSQUAREDhTIMES TAK4lINdNbRbSHdKAa TIMES AaDa PLUS KU3kNSHEeSH2b3eBADbLAGdRcI
bUcERIN2eSH2eGAaLbN2 TENUhRa PLUS SHA3 PLUS AtIaR2cSHa CROSSING GISHnPLUS SARmUaDbR7eHI TIMES ASH2
nIGIcMcKAaKcIaDdLIbUaMdMEa PLUS DUcGIcTEjIa PLUS NUNUZnNEbUNdPAbIcRUcSAaRcHAbEbIDcUaLdIGcUHURfTARc
UcUa U Ue2bDbMUM TIMES PAmRa2cSHdZIj2a CROSSING KA2oBbD2b3b4b5a OVER KAD5mKa TIMES IGI GUNUqLa CRO
SSING KALmTIMES BADlM2b4cP ELAMITEjSKALa LAGAB TIMES U OVER LAGAB TIMES UzhOVER KASKAL LAGAB TIME
S U OVER LAGAB TIMES UzzaESH2eIa TIMES BADdUaDjDbNbSALcHbIM5a OVER KISIM5rUa OVER HI TIMES ASH2 K
U OVER HI TIMES ASH2zq3b4a VARIANT FORMo7bLa GUNUgNbRa OPPOSING KURoSHU2fWU318gLAaGABa SQUAREDhTIM
ES Aa PLUS DA PLUS HAkGARdLALjLbNbSH ZIDA TENUnBADcIcDARdENcGAaRcIbUDa PLUS GUDmHAaLcI TIMES NUNmI
GI GUNUhMa PLUS HAcLUkKIaNcU3bLa PLUS HI PLUS AsLAGABeISHdUaLdMEa PLUS ENjUSHeNEcSHE PLUS SUMkIT
A PLUS GISH PLUS ERIN2kTENUsU2a PLUS SHU2nUMdTAGbK4dE PLUS A PLUS SU PLUS NAzaUa PLUS AbU PLUS Uo
2 PLUS ASHkDbSHdZU OVER ZUsRa GUNUa OVER LAGAR GUNU SHEyTIMES SHEa PLUS SUMwHSHUeK-003c21b5c30c50b
1c62c79 OVER LAK-079 GUNUu80b1 OVER LAK-081p92d130c42d210b9c20b5b8c38c65b6d343b7b8c83b4c90d441b9
a TIMES GUcIGIdPAP PLUS LU3dPAP PLUS LU3vU2 PLUS BAt50b7c70c83c90b2b3b5d550d608c17a TIMES ASHdBADd
DUN3 GUNU GUNUoKU3dLAcTARcEcU2bDbRUDAo36c48a TIMES DUBdGAcIGIa GUNUiNIcPAP PLUS PAP PLUS LU3vSHES
H PLUS KInUDbRUDAp724c49fLa TIMES LALlMa TIMES KURa PLUS RUuIaLbMMU2eSHdUa TIMES BADk2a CROSSING L
U2mGUNU TIMES ASHoOPPOSING LU2mSHESHIGa TIMES BADqQUAREDhTENUdIMES ALcBADdDISHeESH2a PLUS LALiTENU
jGAN2 TENUjHALcI TIMES BADmIMcKAD2b3a PLUS ASHmIcLA PLUS ASHjGABfME PLUS ENkNEbUcPAPa PLUS PAP PLU
S LU3vSHUcI PLUS ASHjK2 PLUS BUmTAK4dUG2m3bGALa OPPOSING LUGALnVER LUGALkSHESHIGlHbLbMa OVER LUM
a GAR OVER GARzaMAa GUNUeTIMES TAK4l2bHbRbSHa2eEaSaHdIa PLUS ZA7jNcUa OVER MUiGa GUNUgNSUBeRGU2eSH
a CROSSING MUSHnOVER MUSHa TIMES A PLUS NAjGAcKAKtTIMES AbKURdZAj3a GUNUeTIMES Aa PLUS DIjDIcZAoNA
a2b4bGAa INVERTEDiOPPOSING NAGAnTIMES SHU TENUpRdMa NUTILLUi2dEa SHESHIGhTIMES AbUDkIa TIMES Ei2bM
a TIMES GAN2 TENUhR PLUS GAN2 TENUzbNa9bDA2a TIMES ANbSHa PLUS ASHmBALdDIM GUNUiGIaSHdUDbLdHIcKESH
2fLAK-050hMASHdE PLUS GAN2 TENUrNEbUNdPAP PLUS PAPmSHEa PLUS A ANdSHa PLUS ASHvUa PLUS Uh2 PLUS AS
HkRUDAeSHoSAGeUa11a OVER NU11 BUR OVER BURwROTATED NINETY DEGREESwTENUhNa CROSSING NUNa LAGAR OVE
R LAGARzeLAGAR TIMES GARdMASHeSALa OVER NUN LAGAR TIMES SALzdUSHpOVER NUNiTENUfUZa AB2 TIMES ASHGA
BgBIcDUGdGUDdIGI GUNUiKAD3eLAcNEcSILA3fU2mKISIM5 TIMES BIa UxPAaDbNbPcESH2a ASTERISKnIa CROSSING P
IlTIMES AaBcBIbUcEbIaBcUa2jR2bIGa OPPOSING PIRIGoTIMES KALdUDcZAoRAaBcIbUcSAaGa GUNUa TIMES HAnNUT
ILLUhOVER SAGiTIMES AbDUaBdENcHAcIGI GUNUiKAKcURdLUMdMIcNUNdSALcHE AT LEFTjIDeTABbK4eU2bBbMbRbSHlL
a LAGAB TIMES ASH2sNGA2eRcHAa3a TIMES AbBADdGISHeNEcSHU2eTURdUa PLUS Aq6a TENUgB6cR2dEa HUcOVER SH
Ea GAD OVER GAD GAR OVER GARzaTAB OVER TAB GAR OVER GARzjPLUS HUB2eNAM2eSARjG9cNbSHa2bLAMgIDa TIME
S AbIMkMa TIMES AbBALcULUGfDINdGARdIGIa GUNUiKUSHU2gLULdMUGdSALlNIGdRa OVER SHIR BUR OVER BURwTENU
gTAdUa OVER INVERTED SHUs2a PLUS DUG TIMES NImE2 TIMES ANsBURfIa GUNUeTIMES TAK4lGa4a OVER SIG4 SH
U2rK2cLA3eUa OVER SUiDa2cHURdMaASHeRa9eTAa ASTERISKiGUNUeTIMES HIcMIjBa OVER TAB NI OVER NI DISH O
VER DISHzjSQUAREDjGa TIMES BIcGUDdSHEbUdTUG2eUDkK4a PLUS SAGlRcEa GUNUgIa TENUf2bLbRa OVER TIRa GA
D OVER GAD GAR OVER GARzjTIMES TAK4nUaG2cKbMa TIMES GAN2 TENUjTHREE DISHsRa OVER TUR ZA OVER ZAxU
a GUDdOVER U PA OVER PA GAR OVER GARxSUR OVER SURmU REVERSED OVER U REVERSEDziUa Ue2bBbDa GUNUeKUS
HU2gSHESHIGa TIMES BADrTIMES BADdMIcU PLUS U PLUS Ua GUNUzcUGdMa TIMES LAGABfMEa PLUS DAkSHA3eUiBI
NdUMa TIMES KASKALgPAmNa GUNUgRa CROSSING URlSHESHIGi2a INVERTEDiTIMES A PLUS HAcNAiLcHAcNUNdU2a P
LUS ASHdBIjDk4bIa3cUa TIMES AaSHGABgBARdDARA3eUNdGAaLbN2 TENUhRcUcHAcIGIcMbSHdKIcLAK-668gU3bMdMINd
PAcSHEcIG4eTUcU PLUS GUDjDbRUDAmDAa TIMES UmSHa TIMES AbKUaRdTAK4l2bUMXdXdTUKIeZ3a TIMES KASKALoUd
ZAa SQUARED TIMES KURrTENUf7bGbMXdE2cIa OVER ZIi3bBa KABA TENUlGbZ2dUa OVER ZU PLUS SARr5a TIMES A
bTHREE DISH TENUxBURdMqP ON BLACK SQUAREpWITH STRAWlCAKEeIDOeRLING STONEjY BRACKET EXTENSIONrLOGIC
AL ANDdORiOPhRENCY EXCHANGEiSIGNjY AND RICElVED STEM PARAGRAPH SIGN ORNAMENTziSTARDdOMSfT OF MEATk
YCLONEfLINDRICITYkPRIOT SYLLABLE AbEbIbJAbOcKAbEbIbObUcLAbEbIbObUcMAbEbIbObUcNAbEbIbObUcObPAbEbIbO
bUcRAbEbIbObUcSAbEbIbObUcTAbEbIbObUcUbWAbEbIbOcXAbEcZAbOpO-MINOAN SIGN CM001b2b4b5b6b7b8b9c10b1b2a
Bc3b5b7b9c21b3b4b5b6b7b8b9c30b3b4b5b6b7b8b9c40b1b4b6b7b9c50b1b2b3b4b5b6b8b9c60b1b2b3b4b6b7b8b9c70b
1b2b3b4b5aBc6b8b9c80b1b2b3b4b5b6b7b8b9c90b1b2b4b5b6b7b8b9d100b1b2b3b4b5b7b8b9c10b2b4d301b2vRILLI
C CAPITAL LETTER Aa WITH BREVEfDIAERESISpBKHASIAN CHEa WITH DESCENDERsDZEdHAlLEUT KAiBARRED Oa WIT
H DIAERESISvSHKIR KAjEbIG YUSfNOCULAR OkLENDED YUSkROAD OMEGAkYELORUSSIAN-UKRAINIAN IyCCHEdHEa WIT
H DESCENDERiIAERESISjVERTICAL STROKExLOSED LITTLE YUSqROSSED OjDCHEdEbJEaRVeOUBLE MONOCULAR OlOhWE
cZEaLOdHEcWEcZEbHEfEa WITH DIAERESISpFbLa WITH DESCENDERjHOOKeMIDDLE HOOKlTAILlMa WITH TAILlNa WIT
H DESCENDERjHOOKeLEFT HOOKjMIDDLE HOOKlTAILlRa WITH TICKlSa WITH DESCENDERrFITAeGHEa WITH DESCENDE
RjMIDDLE HOOKlSTROKEa AND HOOKpUPTURNoJEdHAa WITH DESCENDERjHOOKeSTROKEmRD SIGNiWEdIa WITH DIAERES
ISjGRAVEfMACRONmEa WITH BREVEfGRAVEmOaTAbIFIED AbBIG YUShCLOSED LITTLE YUSrEbLITTLE YUSkYATlZHITSA
a WITH DOUBLE GRAVE ACCENTzhJEcKAa WITH DESCENDERjHOOKeSTROKEgVERTICAL STROKEwHAKASSIAN CHEnJEcOM
I DEbJEcZJEeLJEdNJEdSJEdTJEdZJEgPPAeSIdLHAcITTLE YUSjJEdMONOCULAR OhGRAPH UKmNEUTRAL YERkJEdOa WIT
H DIAERESISpMEGAa WITH TITLOpTcPEa WITH DESCENDERjMIDDLE HOOKsSIdQAcREVERSED DZEdTSEdYUcZEkHAcOUN
D OMEGAlSCHWAa WITH DIAERESIStEMISOFT SIGNmHAbCHAdHAa WITH DESCENDERrORT Ia WITH TAILlUfWEdOFT DEc
ELbMcSIGNiTRAIGHT Ua WITH STROKEwTCHEdEa WITH DESCENDERjMIDDLE HOOKsSEbHEcSEcWEdWEdUa WITH DIAERES
ISiOUBLE ACUTEmMACRONmKaRAINIAN IEmVEcWEcYAaEbTcERUa WITH BACK YERiDIAERESISsIbNbUcZEa WITH DESCEN
DERiIAERESISpMLYAfHEa WITH BREVEfDESCENDERiIAERESISqWEkIGATURE A IEeEN GHEgTE TSExKAVYKAgLETTER MU
LTIOCULAR OnPALOCHKAiSMALL CAPITAL ELxPAYEROKhSMALL LETTER Aa WITH BREVEfDIAERESISpBKHASIAN CHEa W
ITH DESCENDERsDZEdHAlLEUT KAiBARRED Oa WITH DIAERESISvSHKIR KAjEbIG YUSfNOCULAR OkLENDED YUSkROA
D OMEGAkYELORUSSIAN-UKRAINIAN IyCCHEdHEa WITH DESCENDERiIAERESISjVERTICAL STROKExLOSED LITTLE YUSq
ROSSED OjDCHEdEbJEaRVeOUBLE MONOCULAR OlOhWEcZEaLOdHEcWEcZEbHEfEa WITH DIAERESISpFbLa WITH DESCEND
ERjHOOKeMIDDLE HOOKlTAILlMa WITH TAILlNa WITH DESCENDERjHOOKeLEFT HOOKjMIDDLE HOOKlTAILlRa WITH TI
CKlSa WITH DESCENDERrFITAeGHEa WITH DESCENDERjMIDDLE HOOKlSTROKEa AND HOOKpUPTURNoJEdHAa WITH DESC
ENDERjHOOKeSTROKEmRD SIGNiWEdIa WITH DIAERESISjGRAVEfMACRONmEa WITH BREVEfGRAVEmOaTAbIFIED AbBIG Y
UShCLOSED LITTLE YUSrEbLITTLE YUSkYATlZHITSAa WITH DOUBLE GRAVE ACCENTzhJEcKAa WITH DESCENDERjHOOK
eSTROKEgVERTICAL STROKEwHAKASSIAN CHEnJEcOMI DEbJEcZJEeLJEdNJEdSJEdTJEdZJEgPPAeSIdLHAcITTLE YUSjJE
cONG-LEGGED DEoMONOCULAR OhGRAPH UKmNARROW OhEUTRAL YERkJEdOa WITH DIAERESISpMEGAa WITH TITLOpTcPA
LOCHKAhEa WITH DESCENDERjMIDDLE HOOKsSIdQAcREVERSED DZEdTSEdYUcZEkHAcOUND OMEGAgED VEkSCHWAa WIT
H DIAERESIStEMISOFT SIGNmHAbCHAdHAa WITH DESCENDERrORT Ia WITH TAILlUfWEdOFT DEcELbMcSIGNiTRAIGH
T Ua WITH STROKEwTALL HARD SIGNjTEcYAThCHEdEa WITH DESCENDERjMIDDLE HOOKsHREE-LEGGED TEoSEbHEcSEcW
EdWEdUa WITH DIAERESISiOUBLE ACUTEmMACRONmKaRAINIAN IElNBLENDED UKmVEcWEbIDE EShYAaEbTcERUa WITH B
ACK YERiDIAERESISsIbNbUcZEa WITH DESCENDERiIAERESISpMLYAfHEa WITH BREVEfDESCENDERiIAERESISqWEkIGAT
URE A IEeEN GHEgTE TSEvTHOUSANDS SIGNxDAGGERa KNIFEfWITH LEFT GUARDkRIGHT GUARDvLET SYMBOLkNCERdGO
dRK SHADEeUNGLASSESnSH SYMBOLgWITH LEFT UPTURNrED LOW LINEiOVERLINEiTRIANGLE-HEADED RIGHTWARDS ARR
OWzmTA LINK ESCAPEpC1b2b3b4bScEAF PERSONjCIDUOUS TREEkMAL EXPONENT SYMBOLpSEPARATOR KEY SYMBOLzaRE
ASE FONT SIZE SYMBOLxERcGREE CELSIUShFAHRENHEITkSIGNjLaETEdIVERY TRUCKlTA EQUAL TOmNTISTRY SYMBO
L LIGHT DOWN AND HORIZONTALa WITH CIRCLEgTRIANGLEiWAVEzeUP AND HORIZONTALa WITH CIRCLEgTRIANGLEiWA
VEzcVERTICAL AND BOTTOM LEFTeRIGHTmTOP LEFTeRIGHTjWAVEiWITH CIRCLEgTRIANGLEzsPARTMENT STOREoRELIC
T HOUSE BUILDINGvSCENDING NODEmERET CAPITAL LETTER AYcBEEdCHEEeDEEdEFbLbMbNaGcRbSaHcTHcWcGAYdHbJEE
dKAYdLONG AaHcEbIbOaOhOIbWcPEEdSHORT AaHcEbIbOaOiTEEcHEEeVEEdWUcYEEdZEEcHEEtSMALL LETTER AYcBEEdCH
EEeDEEdEFbLbMbNaGcRbSaHcTHcWcGAYdHbJEEdKAYdLONG AaHcEbIbOaOhOIbWcPEEdSHORT AaHcEbIbOaOiTEEcHEEeVEE
dWUcYEEdZEEcHEEuTa ISLANDkKTOP COMPUTERiWINDOWmVANAGARI ABBREVIATION SIGNqCUTE ACCENTmCARETfDANDAe
IGIT EIGHTfFIVEdOUReNINEeONEdSEVENeIXdTHREEeWOdZEROjOUBLE DANDAmGAP FILLERjRAVE ACCENTmHEADSTROKEk
JAIN OMhLETTER AaAbIbUbWbYcBAbBAcHAdCAaNDRA AbEbOhHAdDAbDAbDAbHAdHAdHAdEbFAcGAbGAcHAbHAdLOTTAL STO
PmHAbEAVY YAiIaIcJAbHAcJAdKAbHAbHAeLAbLAbLAeMAaRWARI DDAlNAbGAcNAbNAdYAdOaEbOEdPAbHAdQAcRAbHAcRAdS
AbHAbORT AbEbOgSAdTAbHAcTAbHAeUaEbUaEdVAbOCALIC LaLcRaRkYAbYAdZAbHAkOMcSIGN ANUSVARAhVAGRAHAiCANDR
ABINDUa AVAGRAHAiTHREEeWOdVIRAMAsDOUBLE CANDRABINDU VIRAMAzaHIGH SPACING DOTqINVERTED CANDRABINDUu
NUKTAfPUSHPIKAiSIDDHAMgPACING CANDRABINDUtVIRAMAeSARGAlTRESS SIGN ANUDATTAiUDATTAsVOWEL SIGN AAbIb
UbWbYcCANDRA EbLONG EgOiEbIaIcOaEbOEdPRISHTHAMATRA EpSHORT EbOhUaEbUaEdVOCALIC LaLcRaRzeICE CONTRO
L FOUReONEdSTRINGgTHREEeWOrIAERESISgMETER SIGNjOND OPERATORiSHAPE WITH A DOT INSIDExTARGETgWITH BO
TTOM HALF BLACKrLEFT HALF BLACKpRIGHT HALF BLACKqTOP HALF BLACKzaE FACE-1b2b3b4b5b6hSEL LOCOMOTIVE
pFFERENCE BETWEENqGIT EIGHTa COMMAfFULL STOPpFIVEa COMMAfFULL STOPnOURa COMMAfFULL STOPoNINEa COMM
AfFULL STOPoONEa COMMAfFULL STOPnSEVENa COMMAfFULL STOPoIXa COMMAfFULL STOPnTHREEa COMMAfFULL STOP
oWOa COMMAfFULL STOPnZEROa COMMAfFULL STOPrRAM FOR EARTHaLY HEAVENfUMANnGREATER YANGdINlHEAVENLY E
ARTHnUMAN EARTHlLESSER YANGdINtMENSION ORIGINoNGBAT CIRCLED SANS-SERIF DIGIT EIGHTfFIVEdOUReNINEeO
NEdSEVENeIXdTHREEeWOdZEROkNUMBER TENzeNEGATIVE CIRCLED DIGIT EIGHTfFIVEdOUReNINEeONEdSEVENeIXdTHRE
EeWOjNUMBER TENkSANS-SERIF DIGIT EIGHTfFIVEdOUReNINEeONEdSEVENeIXdTHREEeWOdZEROkNUMBER TENztRECT C
URRENT SYMBOL FORM TWOxHITiSABLED CARiPPOINTED BUT RELIEVED FACErFACEoCONTINUOUS UNDERLINE SYMBOLz
cGUISED FACEmTTO MARKiVES AKURU DIGIT EIGHTfFIVEdOUReNINEeONEdSEVENeIXdTHREEeWOdZEROjOUBLE DANDAmE
ND OF TEXT MARKqGAP FILLERkINITIAL RAkLETTER AaAcBAbHAdCAbHAdDAbDAbHAdHAdEbGAbHAdHAcIaIcJAcKAbHAdL
AbLAdMAcNAbGAcNAcYAdObPAbHAdRAcSAbHAcSAdTAbHAcTAdUaUcVAcYAbYAdZAjMEDIAL RAcYAjPREFIXED NASAL SIGNt
SIGN ANUSVARAiCANDRABINDUlHALANTAhNUKTAkVIRAMAfOWEL SIGN AAbIcEbIaIcObUaUwIDESdNG MASKhSION SIGNdL
ASHfTIMESlORCE SYMBOLmYA LAMPhZZY FACEeSYMBOLlLEcNA DOUBLE HELIXpO NOT LITTER SYMBOLsCUMENTa WIT
H PICTUREhTEXTa AND PICTUREzdDOcES NOT CONTAIN AS MEMBERgNORMAL SUBGROUPa OR EQUALzkDIVIDEa WITH R
EVERSED NEGATION SLASHzkFORCEfPRECEDEa OR EQUALoOVEfSUCCEEDa OR EQUALxGa FACEfRA ABBREVIATION SIGN
rLETTER AaAbIbUcBAbHAdCAbHAdDAbDAbHAdHAdEbGAbHAdHAcIaIcJAbHAdKAbHAdLAcMAcNAbGAcNAcYAdObPAbHAdRAbRA
dSAbHAcSAdTAbHAcTAbHAeUaUcVAcYAjSIGN ANUSVARAiNUKTAfVIRAMAeSARGAmVOWEL SIGN AAbIbUcEbIaIcObUaUcVOC
ALIC RaRzaLLAR SIGNiPHINfMINO TILE HORIZONTAL BACKf-00-00b1b2b3b4b5b6e1-00b1b2b3b4b5b6e2-00b1b2b3b
4b5b6e3-00b1b2b3b4b5b6e4-00b1b2b3b4b5b6e5-00b1b2b3b4b5b6e6-00b1b2b3b4b5b6qVERTICAL BACKf-00-00b1b2
b3b4b5b6e1-00b1b2b3b4b5b6e2-00b1b2b3b4b5b6e3-00b1b2b3b4b5b6e4-00b1b2b3b4b5b6e5-00b1b2b3b4b5b6e6-00
b1b2b3b4b5b6yNG SIGNhORcT ABOVEfMINUSfOPERATORiPLUSfTED CIRCLEfROSSfFENCEfLINE FACEjOBELOSgRIGHT-P
OINTING ANGLEuSOLIDUSgQUAREgTRANSPOSITION MARKERzaUBLE ACUTE ACCENTmCIRCLED DIGIT EIGHTfFIVEdOUReN
INEeONEdSEVENeIXdTHREEeWOjNUMBER TENrOLON EQUALkURLY LOOPkDAGGERfOWN TACKjEXCLAMATION MARKqHIGH-RE
VERSED-9 QUOTATION MARKzeYPHENgINTEGRALeRSECTIONmLEFT ARC GREATER-THAN BRACKETzdOGICAL ANDdORiW LI
NEf-9 QUOTATION MARKqREVERSED-9 QUOTATION MARKzeNESTED GREATER-THANmLESS-THANa WITH UNDERBARzfOBLI
QUE HYPHENoPLUSdRECEDESgIMEa QUOTATION MARKuQUESTION MARKnRIGHT ARC LESS-THAN BRACKETzcSOLIDUS OPE
RATORpQUARE INTERSECTIONmUNIONlTACKED COMMAlROKE NOT SIGNoUBSETeCCEEDSgPERSETgSPENSION MARKpUNIONe
P TACKhVERTICAL BARa DOUBLE LEFT TURNSTILEoRIGHT TURNSTILEwLEFT TURNSTILEsLINEnWAVY OVERLINEo-ENDE
D MULTIMAPoLINE EQUAL TO OR GREATER-THANmLESS-THANvSLANTED EQUAL TO OR GREATER-THANmLESS-THANvGREA
TER-THAN OR EQUAL TOyLESS-THAN OR EQUAL TOzjSTRUCK CAPITAL CbGAMMAfHbNbPaIcQbRbZjITALIC CAPITAL Dj
SMALL DbEbIbJoN-ARY SUMMATIONpSMALL GAMMAfPIqD FEMALE SIGNlMALE SIGNjSYMBOLlGHNUTgVE OF PEACElWN A
RROWHEADjFISH TAILjRIGHT DIAGONAL ELLIPSISxTACKa WITH CIRCLE BELOWx-POINTING RED TRIANGLEmSMALL RE
D TRIANGLEsTRIANGLE WITH LEFT HALF BLACKpRIGHT HALF BLACKzpWARD FACING HOOKa WITH DOTnNOTCHED HOOK
a WITH DOTzeS ANCORAfRROWa AND RIGHT ONE EIGHTH BLOCKzbFROM BARiLEFTWARDS OF UPWARDS ARROWzbTO BAR
gWITH CORNER LEFTWARDSqDOUBLE STROKEnEQUILATERAL ARROWHEADvHORIZONTAL STROKErLARGE TRIANGLE ARROWH
EADyMEDIUM TRIANGLE ARROWHEADzaNOTCHED TAILmSMALL EQUILATERAL ARROWHEADvTRIANGLE ARROWHEADyTIP LEF
TWARDSjRIGHTWARDSzaBLACK ARROWfCIRCLED WHITE ARROWzaCOMPRESSED ARROWqDASHED ARROWlOUBLE ARROWmFING
ER-POST ARROWrHARPOON WITH BARB LEFT BESIDE DOWNWARDS HARPOON WITH BARB RIGHTziUPWARDS HARPOON WIT
H BARB RIGHTznFROM BARiTO BARhWARDSjRIGHT FROM BARiTO BARhWARDSzcEAVY ARROWfCOMPRESSED ARROWwPAIRE
D ARROWSnQUADRUPLE ARROWpROCKETgSANS-SERIF ARROWpQUARED ARROWnTRIANGLE ARROWHEADk-HEADED ARROWa LE
FTWARDS OF UPWARDS TRIANGLE-HEADED ARROWzrTO BARgWITH BOLD SHAFTkDOUBLE HORIZONTAL STROKEyHEAVY SH
AFTlLONG TIP LEFTWARDSjRIGHTWARDStMEDIUM SHAFTmNARROW SHAFTmVERY HEAVY SHAFTzcDASHED ARROWmPAIRE
D ARROWSnZIGZAG ARROWzaPLE ARROWlWO HEADED ARROWn-HEADED ARROW WITH TRIANGLE ARROWHEADSzqWHITE ARR
OWa WITHIN TRIANGLE ARROWHEADzmZIGZAG ARROWvRACHMA SIGNjFTING POINT RIGHTWARDS ARROWzdGONa FACEjES
SdIVE SLOW SIGNnOMEDARY CAMELmOLING FACEkP OF BLOODjLETfUM WITH DRUMSTICKStUCKcMPLINGgPLOYAN AFFI
X ATTACHED E HOOKgI HOOKgLEFT-TO-RIGHT SECANTuSECANTgTAILcNGENTa HOOKvHIGH ACUTEfCIRCLEgDOTdGRAVEf
LINEdONG GRAVEkTIGHT ACUTElVERTICALa SECANTpWAVEjLEFT HORIZONTAL SECANTvOW ACUTEeRROWfCIRCLEgDOTdG
RAVEfLINEdONG GRAVEkTIGHT ACUTElVERTICALa SECANTpWAVEiMID HORIZONTAL SECANTrVERTICAL SECANTtRIGH
T HORIZONTAL SECANTzeDOUBLE MARKlLETTER AaOUdBbDa ScHcEaEbUcFa NdGa R SfHaLcIaEcJa Ma SdNa SdSa WI
TH DOTkWITH DOTaS INSIDE AND ABOVEzdKa MbR SeKcLaHbONG IbUgMa Na SdSbWITH DOTkNa Ma SdSbWITH DOTjA
SAL AbIbObUhOaAbOHcUbWcPa NcERNIN AMbNjRa ScHbOMANIAN IbUkSa Ja SdKa RdMbNbPa RdSbTa RdWITH DOTa B
ELOWpHORT IgLOAN ANcDHcEEbHbNcJbONbWcUhTa R SdScHcUa NcHbIcVaOCALIC MjWa RcAbEIcHbIbOaWdXaWcYEjPUN
CTUATION CHINOOK FULL STOPzeSIGN O WITH CROSSrTHICK LETTER SELECTORzeVDdE-MAIL SYMBOLmAGLEdRa OF M
AIZEfRICEhWITH HEARING AIDrTHa GLOBE AMERICAShSIA-AUSTRALIAoEUROPE-AFRICAsROUNDkST SYRIAC CROSSqDI
TORIAL CORONISqGGbYPTIAN HIEROGLYPH A001b2b3b4b5aAc6aAbBc7b8b9c10b1b2b3b4aAc5b6b7aAc8b9c20b1b2b3b4
b5b6b7b8b9c30b1b2aAc3b4b5b6b7b8b9c40aAc1b2aAc3aAc4b5aAc6b7b8b9c50b1b2b3b4b5b6b7b8b9c60b1b2b3b4b5b6
b7b8b9c70dA001b2b3b4b5b6b7aAbBc8b9c10b1b2b3b4b5b6b7b8b9c20b1b2b3b4b5b6b7b8b9c30b1b2fB001b2b3b4b5aA
c6b7b8b9dEGIN SEGMENTnC001b2aAbBbCc3b4b5b6b7b8b9c10aAc1b2b3b4b5b6b7b8b9c20b1b2b3b4eD001b2b3b4b5b6b
7b8aAc9c10b1b2b3b4b5b6b7b8b9c20b1b2b3b4b5b6b7aAc8b9c30b1aAc2b3b4aAc5b6b7b8b9c40b1b2b3b4b5b6aAc7b8a
Ac9c50aAbBbCbDbEbFbGbHbIc1b2aAc3b4aAc5b6b7b8b9c60b1b2b3b4b5b6b7aAbBbCbDbEbFbGbHfE001b2b3b4b5b6b7b8
aAc9aAd10b1b2b3b4b5b6aAc7aAc8b9c20aAc1b2b3b4b5b6b7b8aAc9c30b1b2b3b4aAc6b7b8dND SEGMENTlF001aAc2b3b
4b5b6b7b8b9c10b1b2b3aAc4b5b6b7b8b9c20b1aAc2b3b4b5b6b7b8b9c30b1aAc2b3b4b5b6b7aAc8aAc9c40b1b2b3b4b5a
Ac6aAc7aAc8b9c50b1aAbBbCc2b3eG001b2b3b4b5b6aAc7aAbBc8b9c10b1aAc2b3b4b5b6b7b8b9c20aAc1b2b3b4b5b6aAc
7b8b9c30b1b2b3b4b5b6aAc7aAc8b9c40b1b2b3aAc4b5aAc6b7b8b9c50b1b2b3b4eH001b2b3b4b5b6aAc7b8dORIZONTA
L JOINERrI001b2b3b4b5aAc6b7b8b9aAd10aAc1aAc2b3b4b5dNSERT AT BOTTOM ENDdSTARTmTOP ENDdSTARTtK001b2b
3b4b5b6b7b8eL001b2aAc3b4b5b6aAc7b8eM001aAbBc2b3aAc4b5b6b7b8b9c10aAc1b2aAbBbCbDbEbFbGbHc3b4b5aAc6aA
c7aAc8b9c20b1b2aAc3b4aAc5b6b7b8aAc9c30b1aAc2b3aAbBc4b5b6b7b8b9c40aAc1b2b3b4eN001b2b3b4b5b6b7b8b9c1
0b1b2b3b4b5b6b7b8aAbBc9c20b1b2b3b4b5aAc6b7b8b9c30b1b2b3aAc4aAc5aAc6b7aAc8b9c40b1b2dL001b2b3b4b5aAc
6b7b8b9c10b1b2b3b4b5b6b7aAc8b9c20eU001b2b3b4b5b6b7b8b9c10aAc1aAc2b3b4b5b6b7b8aAc9c20b1b2aAgO001aAc
2b3b4b5aAc6aAbBbCbDbEbFc7b8b9c10aAbBbCc1b2b3b4b5b6b7b8b9aAd20aAc1b2b3b4aAc5aAc6b7b8b9aAd30aAc1b2b3
aAc4b5b6aAbBbCbDc7b8b9c40b1b2b3b4b5b6b7b8b9c50aAbBc1dVERLAY MIDDLEoP001aAc2b3aAc4b5b6b7b8b9c10b1eQ
001b2b3b4b5b6b7eR001b2aAc3aAbBc4b5b6b7b8b9c10aAc1b2b3b4b5b6aAc7b8b9c20b1b2b3b4b5b6b7b8b9eS001b2aAc
3b4b5b6aAc7b8b9c10b1b2b3b4aAbBc5b6b7aAc8b9c20b1b2b3b4b5b6aAbBc7b8b9c30b1b2b3b4b5aAc6b7b8b9c40b1b2b
3b4b5b6eT001b2b3aAc4b5b6b7aAc8aAc9aAd10b1aAc2b3b4b5b6aAc7b8b9c20b1b2b3b4b5b6b7b8b9c30b1b2aAc3aAc4b
5b6eU001b2b3b4b5b6aAbBc7b8b9c10b1b2b3b4b5b6b7b8b9c20b1b2b3aAc4b5b6b7b8b9aAd30b1b2aAc3b4b5b6b7b8b9c
40b1b2eV001aAbBbCbDbEbFbGbHbIc2aAc3b4b5b6b7aAbBc8b9c10b1aAbBbCc2aAbBc3b4b5b6b7b8b9c20aAbBbCbDbEbFb
GbHbIbJbKbLc1b2b3aAc4b5b6b7b8aAc9aAd30aAc1aAc2b3aAc4b5b6b7aAc8b9c40aAeERTICAL JOINERpW001b2b3aAc4b
5b6b7b8b9aAd10aAc1b2b3b4aAc5b6b7aAc8aAc9c20b1b2b3b4aAc5eX001b2b3b4aAbBc5b6aAc7b8aAfY001aAc2b3b4b5b
6b7b8eZ001b2aAbBbCbDc3aAbBc4aAc5aAc6b7b8b9c10b1b2b3b4b5aAbBbCbDbEbFbGbHbIc6aAbBbCbDbEbFbGbHyIGHT P
ETALLED OUTLINED BLACK FLORETTEzgOINTED BLACK STARkPINWHEEL STARnRECTILINEAR BLACK STARzfSPOKED AS
TERISKpTEARDROP-SPOKED PROPELLER ASTERISKzkH NOTEkJECT SYMBOLlLBASAN LETTER AbBEcCEbHEdDEbHEdEaIcF
EcGEbHAMMAeEcJEdHEcIbJEcKEbHEdLEbLEdMEcNAbDEcEbJEdObPEcQEcREbREdSEbHEdTEbHEdUbVEcXEcYbZEbHEqECTRI
C ARROWfLIGHT BULBkPLUGeTORCHgAL INTERSECTIONuMENT OFa OPENING DOWNWARDSjUPWARDSpWITH DOT ABOVEjLO
NG HORIZONTAL STROKEwOVERBARhTWO HORIZONTAL STROKESwUNDERBARiVERTICAL BAR AT END OF HORIZONTAL STR
OKEzzdPHANTfVATORgFbYMAIC LETTER ALEPHeYINeBETHeDALETHgGIMELfHEaTHeKAPHeLAMEDHgMEMdNUNdPEcQOPHeRES
HeSADHEdMEKHfHINeTAWcETHeWAWdYODHeZAYINlIGATURE ZAYIN-YODHzbM DASHeQUADeSPACEgOJI COMPONENT BALDeC
URLY HAIRkRED HAIRiWHITE HAIRuMODIFIER FITZPATRICK TYPE-1-2d3b4b5b6zgPHASIS SYMBOLmTY DOCUMENTiNES
TdOTEa PADbGEjPAGEaSfSETa WITH LEFT ARROW ABOVEqOVERBARhRIGHT ARROW ABOVErSMALL CIRCLE ABOVEzhN DA
SHeQUADeSPACEgD OF GUARDED AREAmLINEeMEDIUMgPROOFcTECTED AREAoSELECTED AREAnTEXTdRANSMISSIONa BLOC
KvWITH LEFTWARDS ARROW ABOVEzdQaUIRYfTER SYMBOLkVELOPEa WITH DOWNWARDS ARROW ABOVEvLIGHTNINGwOLbMb
TcPAcQUAL AND PARALLEL TOpTO BY DEFINITIONnOR GREATER-THANmLESS-THANjPRECEDESiSUCCEEDSpS COLONfSIG
Na ABOVE LEFTWARDS ARROWpPLUS SIGNjRIGHTWARDS ARROWqTILDE OPERATORtND SLANTED PARALLELa WITH TILD
E ABOVEzmWITH BUMPY ABOVElDOT BELOWjINFINITY BELOWoTWO DOTS ABOVE AND TWO DOTS BELOWzsWITH ASTERIS
KrIANGULAR TOkVALENT TOcWITH FOUR DOTS ABOVEzfRASE TO THE LEFTeRIGHTqIS FORM ONEdTWOlROR-BARRED BL
ACK CIRCLEgDIAMONDhSQUAREmWHITE CIRCLEgDIAMONDhSQUAREySAbCaAPEeTIMATED SYMBOLiSiTBbHIOPIC COLONdMB
INING GEMINATION AND VOWEL LENGTH MARKvMARKpVOWEL LENGTH MARKyMAfDIGIT EIGHTfFIVEdOUReNINEeONEdSEV
ENeIXdTHREEeWOjFULL STOPjNUMBER EIGHTYgFIFTYeORTYfHUNDREDhNINETYgSEVENTYgIXTYfTENa THOUSANDlHIRTYf
WENTYnPARAGRAPH SEPARATORsREFACE COLONnQUESTION MARKnSECTION MARKkMICOLONiYLLABLE BAaAcBAaAcEaEcIb
ObUcEaEcIbOaAcUbWAbEaEcIdCAaAcCAaAcEaEcHAaAcEaEcHAaAcEaEcIbObUcIbObUcIbObUcEaEcHAaAcEaEcIbOaAcUbWA
dIbOaAcUbWAdDAaAcDAaAcEaEcHAAcEaEcIbObUcIbOaAcUbWAdEaEcIbOaAcUbWAcZAAcEaEcIbObUdFAaAcEaEcIbObUbWAb
EaEcIcYAdGAaAcEaEcGAaAcEaEcIbObUbWAaAcEaEcIdIbLOTTAL AaAcEaEcIbOaAcUbWAjOaAcUaRAGE BWEEcIdFWEEcIdG
WEaEcIdHHWAeKWEaEcIdMWEEcIdPWEEcIdQWEaEcIjWAaAcEaEcIcYAaAcEaEcIbObUdHAaAcEaEcHAaAcEaEcIbObUbWAbEaE
cIcYAaAcEaEcIbObUdIbOaAcUcJAaAcEaEcIbOaAcUbWAdKAaAcEaEcIbOaAcUbWAaAcEaEcIcXAaAcEaEcIbObUbWAaAcEaEc
IdYAaAcEaEcIbObUdLAaAcEaEcIbOaAcUbWAdMAaAcEaEcIbOaAcUbWAbEaEcIcYAdNAaAcEaEcIbOaAcUbWAcYAaAcEaEcIbO
aAcUbWAePAaAcEaEcHAaAbRYNGEAL AaAcEaEcIbObUkEaEcIbOaAcUbWAdIbOaAcUbWAbEaEcIdQAaAcEaEcHAaAcEaEcIbOb
UbWAaAcEaEcIdIbOaAcUbWAaAcEaEcIcYAaAcEaEcIbObUdRAaAcEaEcIbOaAcUbWAcYAdSAaAcEaBATBEIT BWAdFWAdMWAdP
WAlEcHAaAcEaEcIbOaAcUbWAdIbOaAcSAaAcEaEcIbObUcUbWAcZAaAcEaEcIbObUbWAeTAaAcEaEcHAaAcEaEcIbOaAcUbWAd
IbOaAcSAaAcEaEcIbObUbWAdTHAAcEaEcIbObUdUbWAcZAaAcEaEcIbOaAcUdVAaAcEaEcIbObUbWAdWAaAcEaEcIbOaAcUcXA
aAcEaEcIbOaAcUbWAaAcEaEcIcYAaAcEaEcIbObUdYAaAcEaEcIbOaAcUcZAaAcEaEcHAaAcEaEcIbObUbWAdIbOaAcUbWAcZA
aAcEaEcIbObUmTONAL MARK CHIRETgDERETa-HIDETkIFATfHIDETfKENATeURTeRIKRIKgSHORT RIKRIKmYIZETqWORDSPA
CEqXcULER CONSTANTmRO SIGNf-CURRENCY SIGNoPEAN CASTLEgPOST OFFICEtVERGREEN TREEnXCESSdLAMATION MAR
KeQUESTION MARKxPRESSIONLESS FACErTENDED ARABIC-INDIC DIGIT EIGHTfFIVEdOUReNINEeONEdSEVENeIXdTHREE
eWOdZEROzeRATERRESTRIAL ALIENsEMELY HEAVY FIVE SPOKED ASTERISKuGREEK CROSSlSALTIREgIX SPOKED ASTER
ISKtWHITE CIRCLEgSQUAREzcYEaGLASSEShSeFACE HOLDING BACK TEARSsMASSAGEhPALMeSAVOURING DELICIOUS FOO
DxCREAMING IN FEARrTHROWING A KISSpWITH COLD SWEATiWBOY HATkDIAGONAL MOUTHoFINGER COVERING CLOSE
D LIPSzcHEAD-BANDAGEmLOOK OF TRIUMPHpMEDICAL MASKlONOCLEhNO GOOD GESTUREpOK GESTUREjNE EYEBROW RAI
SEDrPEN EYES AND HAND OVER MOUTHyMOUTHa AND COLD SWEAToVOMITINGtPARTY HORN AND PARTY HATxEEKING EY
EkLEADING EYESnROLLING EYESmSTUCK-OUT TONGUEa AND TIGHTLY-CLOSED EYEStWINKING EYEzhTEARS OF JOYlHE
RMOMETERlUNEVEN EYES AND WAVY MOUTHzcOUT MOUTHpSIMILE SIGNlTORYfIRYdLAFELeLEN LEAFhING DIAGONAL CR
OSSING NORTH EAST ARROWqRISING DIAGONALyIN WHITE CIRCLE IN BLACK SQUAREzvMILYeRSI SYMBOLkTHER CHRI
STMASoX ICONeMACHINEkEARFUL FACEjTHERfMALE SIGNiININE ORDINAL INDICATORyNCEReRRIS WHEELiYeFbIELD H
OCKEY STICK AND BALLzaGURE DASHeSPACEkLE CABINEThFOLDERgSEPARATORlM FRAMESgPROJECTORmNITE PART INT
EGRALsREa ENGINEfXTINGUISHERnCRACKERhWORK SPARKLERjSgST PLACE MEDALlQUARTER MOONa SYMBOLgWITH FACE
wSTRONG ISOLATEsSHa CAKE WITH SWIRL DESIGNxEYEdING POLE AND FISHsTED HAND SIGNoVE DOT MARKePUNCTUA
TIONtLAG IN HOLEjMINGOfT SHOEfBREADfNESSgEUR-DE-LISjXED BICEPSlOPPY DISKiRAL HEARTjWERa PLAYING CA
RDSmUNCTUATION MARKvUSHED FACEkYaING DISCeENVELOPEiSAUCERmOGaGYdLDEReNDUEeOTaPRINTSiR ALLeCESdK AN
D KNIFEa WITH PLATEvED PARAGRAPHOSoINGeM FEEDgTUNE COOKIEmUNTAINfR BALLOON-SPOKED ASTERISKxCLUB-SP
OKED ASTERISKtORNER ARROWS CIRCLING ANTICLOCKWISEzlDOT MARKePUNCTUATIONpLEAF CLOVERlPOINTED BLAC
K STARsTEARDROP-SPOKED ASTERISKza-PER-EM SPACEnTH ROOTjX FACEhRACTION NUMERATOR ONEnSLASHlME WIT
H AN XePICTUREhTILESoEEZING FACEkNCH FRANC SIGNiIESkIED SHRIMPkOG FACEgNT-FACING BABY CHICKrTILTE
D SHADOWED WHITE RIGHTWARDS ARROWzqWNaING FACE WITH OPEN MOUTHzdSaIcUEL PUMPhLL BLOCKfMOON SYMBOLg
WITH FACEoOUTER JOINkSTOPfWIDTH AMPERSANDiPOSTROPHEjSTERISKiBROKEN BARkCENT SIGNiIRCUMFLEX ACCENTq
OLONdMMAbERCIAL ATnDIGIT EIGHTfFIVEdOUReNINEeONEdSEVENeIXdTHREEeWOdZEROjOLLAR SIGNlEQUALS SIGNkXCL
AMATION MARKqFULL STOPjGRAVE ACCENTkEATER-THAN SIGNrHYPHEN-MINUSmLATIN CAPITAL LETTER AbBbCbDbEbFb
GbHbIbJbKbLbMbNbObPbQbRbSbTbUbVbWbXbYbZqSMALL LETTER AbBbCbDbEbFbGbHbIbJbKbLbMbNbObPbQbRbSbTbUbVbW
bXbYbZtEFT CURLY BRACKETnPARENTHESISlSQUARE BRACKEToWHITE PARENTHESISuSS-THAN SIGNnOW LINEiMACRONg
NOT SIGNhUMBER SIGNlPERCENT SIGNlLUS SIGNiOUND SIGNkQUESTION MARKlOTATION MARKoREVERSE SOLIDUSoIGH
T CURLY BRACKETnPARENTHESISlSQUARE BRACKEToWHITE PARENTHESISxSEMICOLONiOLIDUShTILDEfVERTICAL LINEn
WON SIGNiYEN SIGNqNCTION APPLICATIONrERAL URNjSEdVS1b2b3b4eGAME DIEgRLICfEARa WITH HANDLESiOUT HUB
oM STONEgINIeNIEdOMETRIC PROPORTIONlALLY EQUAL TOfIVALENT TOyRGIAN CAPITAL LETTER AENcNcBANdCANcHA
RcINdILdDONdENcGANcHANeHAEbRcEbIEcOEdINcJHANdILdKANcHAReLASdMANdNARdONcPARcHAReQARdRAEdSANcHINeTAN
bRdUNcVINdWEcXANdYNcZENcHARtLETTER AENcINcNcBANdCANcHARcINdILdDONdELIFIeNcFIcGANcHANeHAEbRaD SIGNi
EbIEcOEdINcJHANdILdKANcHAReLABIAL SIGNjSdMANdNARdONcPARcHAReQARdRAEdSANcHINeTANbRcURNED GANkUNcVIN
dWEcXANdYNcZENcHARlMTAVRULI CAPITAL LETTER AENcINcNcBANdCANcHARcINdILdDONdELIFIeNcFIcGANcHANeHAEbR
aD SIGNiEbIEcOEdINcJHANdILdKANcHAReLABIAL SIGNjSdMANdNARdONcPARcHAReQARdRAEdSANcHINeTANbRcURNED GA
NkUNcVINdWEcXANdYNcZENcHARzdPARAGRAPH SEPARATORtSMALL LETTER AENcNcBANdCANcHARcINdILdDONdENcGANcHA
NeHAEbRcEbIEcOEdINcJHANdILdKANcHAReLASdMANdNARdONcPARcHAReQARdRAEdSANcHINeTANbRdUNcVINdWEcXANdYNcZ
ENcHARyRMAN PENNY SIGNpTA MARKiHOSTeIMEL SYMBOLkRAFFE FACEjLaS SYMBOLlLAGOLITIC CAPITAL LETTER AZU
dBIG YUSgUKYeCAUDATE CHRIVInHRIVIgDJERVIfOBROeZELOfFITAdRITUfGLAGOLIhHERUeIaNITIAL IZHElOTATED BI
G YUShSMALL YUSqZHEbITSAhKAKOeLATINATE MYSLITEpJUDIJEhMYSLITEhNASHIfONUcTUdPEbOKOJIgRITSIfSHAbTAaP
ICgLOVOeMALL YUSa WITH TAILsPIDERY HAkTROKUTASTI AlSIcVRIDOgUKUdVEDEeYATIdERIbUcSTUeObUcZEMLJAfHIV
ETEwSMALL LETTER AZUdBIG YUSgUKYeCAUDATE CHRIVInHRIVIgDJERVIfOBROeZELOfFITAdRITUfGLAGOLIhHERUeIaNI
TIAL IZHElOTATED BIG YUShSMALL YUSqZHEbITSAhKAKOeLATINATE MYSLITEpJUDIJEhMYSLITEhNASHIfONUcTUdPEbO
KOJIgRITSIfSHAbTAaPICgLOVOeMALL YUSa WITH TAILsPIDERY HAkTROKUTASTI AlSIcVRIDOgUKUdVEDEeYATIdERIbU
cSTUeObUcZEMLJAfHIVETEzdSS OF MILKlEICH STARKkOBE WITH MERIDIANSrVESdWING STARlOAL NETfTcGGLESfLFE
ReRILLAfTHIC LETTER AHSAdIHVUSgBAIRKANhDAGSeEISdFAIHUfGIBAeHAGLdWAIRfIGGWSeUJAeJERdKUSMAfLAGUSfMAN
NAfNAUTHSfINE HUNDREDiTYgOTHALfPAIRTHRAiQAIRTHRAiRAIDAfSAUILfTEIWSeHIUTHgURUSeWINJAsRADUATION CAPl
NTHA AU LENGTH MARKoLETTER AaAbIbUcBAbHAdCAbHAdDAbDAbHAdHAdEEcGAbHAdHAcIaIcJAbHAdKAbHAdLAbLAdMAcNA
bGAcNAcYAdOOcPAbHAdRAcSAbHAcSAdTAbHAcTAbHAeUaUcVAbEDIC ANUSVARAiDOUBLE ANUSVARAuOCALIC LaLcRaRkYAj
OMcSIGN ANUSVARAhVAGRAHAiCANDRABINDUkOMBINING ANUSVARA ABOVEyNUKTAfPLUTAfVIRAMAeSARGAmVOWEL SIGN A
AbIbUcEEcIaIcOOcUaUcVOCALIC LaLcRaRzbPESdVE ACCENTkEATER-THAN ABOVE DOUBLE-LINE EQUAL ABOVE LESS-T
HANziLESS-THAN ABOVE DOUBLE-LINE EQUALziRIGHTWARDS ARROWqSIMILAR ABOVE LESS-THANpOR EQUALpLANTED E
QUAL ABOVE LESS-THAN ABOVE SLANTED EQUALzzeND NOT APPROXIMATEpSINGLE-LINE NOT EQUAL TOzdBESIDE LES
S-THANpUT NOT EQUAL TOfIVALENT TOvCLOSED BY CURVEa ABOVE SLANTED EQUALzkEQUAL TO OR LESS-THANvOR A
PPROXIMATElEQUAL TOfIVALENT TOnLESS-THANjSLANTED EQUAL TOa WITH DOT ABOVEa LEFTkINSIDEzjVER EQUA
L TOjLAPPING LESS-THANvSIGNeWITH CIRCLE INSIDEnDOTdQUESTION MARK ABOVEzjEK ACROPHONIC ATTIC FIFTY
a STATERShTALENTSgHOUSANDa STATERSuVEa HUNDREDa STATERShTALENTSpSTATERShTALENTSgHOUSANDa TALENTSvO
NE DRACHMAhHALFdUNDRED STATERShTALENTSpQUARTERhTHOUSAND STATERShTALENTSuTEN MNASeSTATERShTALENTSgH
OUSAND STATERSzbCARYSTIAN FIVE HUNDREDvYRENAIC TWO DRACHMASvDELPHIC FIVE MNASrEPIDAUREAN FIVE HUND
REDmTWOa DRACHMASxHERAEUM ONE PLETHRONrMIONIAN FIFTYfONEdTENoMESSENIAN TENnNAXIAN FIVE HUNDREDtSTR
ATIAN FIFTY MNAStTHESPIAN FIFTYdVE HUNDREDhTHOUSANDnONEa HUNDREDhTHOUSANDmTENcHIRTYeREE HUNDREDmWO
lROEZENIAN FIFTYa ALTERNATE FORMsVEa HUNDREDmTENa ALTERNATE FORMzoNO TELEIAjROURA SIGNjTABE SIGNlB
ETA SYMBOLlCAPITAL DOTTED LUNATE SIGMA SYMBOLzbKAI SYMBOLkLETTER ALPHAa WITH DASIAa AND OXIAa AN
D PROSGEGRAMMENIxPERISPOMENIa AND PROSGEGRAMMENIzeROSGEGRAMMENIoVARIAa AND PROSGEGRAMMENIzjMACRONg
OXIAePROSGEGRAMMENInSILIa AND OXIAa AND PROSGEGRAMMENIxPERISPOMENIa AND PROSGEGRAMMENIzeROSGEGRAMM
ENIoVARIAa AND PROSGEGRAMMENIzjTONOSfVARIAeRACHYqRCHAIC SAMPInBETAeCHIdDELTAfEPSILONa WITH DASIA
a AND OXIAeVARIApOXIAePSILIa AND OXIAeVARIApTONOSfVARIArTAa WITH DASIAa AND OXIAa AND PROSGEGRAMME
NIxPERISPOMENIa AND PROSGEGRAMMENIzeROSGEGRAMMENIoVARIAa AND PROSGEGRAMMENIzjOXIAePROSGEGRAMMENInS
ILIa AND OXIAa AND PROSGEGRAMMENIxPERISPOMENIa AND PROSGEGRAMMENIzeROSGEGRAMMENIoVARIAa AND PROSGE
GRAMMENIzjTONOSfVARIAoGAMMAfHETAeIOTAa WITH DASIAa AND OXIAePERISPOMENIlVARIAoIALYTIKAjMACRONgOXIA
ePSILIa AND OXIAePERISPOMENIlVARIApTONOSfVARIAeRACHYqKAPPAfLAMDAfMUcNUcOMEGAa WITH DASIAa AND OXIA
a AND PROSGEGRAMMENIxPERISPOMENIa AND PROSGEGRAMMENIzeROSGEGRAMMENIoVARIAa AND PROSGEGRAMMENIzjOXI
AePROSGEGRAMMENInSILIa AND OXIAa AND PROSGEGRAMMENIxPERISPOMENIa AND PROSGEGRAMMENIzeROSGEGRAMMENI
oVARIAa AND PROSGEGRAMMENIzjTONOSfVARIAoICRONa WITH DASIAa AND OXIAeVARIApOXIAePSILIa AND OXIAeVAR
IApTONOSfVARIAsPAMPHYLIAN DIGAMMArHIcIbSIdRHOa WITH DASIAoSANcHOcIGMAfTAUcHETAfUPSILONa WITH DASIA
a AND OXIAePERISPOMENIlVARIAoIALYTIKAjMACRONgOXIAeTONOSfVARIAeRACHYtXIcYOTdZETAkUNATE SIGMA SYMBOL
tREVERSED DOTTED LUNATE SIGMA SYMBOLzbLUNATE SIGMA SYMBOLzdTHETA SYMBOLuDASIAa AND OXIAePERISPOMEN
IlVARIAoIALYTIKA AND OXIAePERISPOMENIlVARIAjTONOSoRACHMA SIGNmFIVE OBOLS SIGNoOUR OBOLS SIGNpGRAMM
A SIGNlINDICTION SIGNmSTRUMENTAL NOTATION SYMBOL-1a1b2b3b4b7b8b9c2a3b4b5b6b7b9c30b2b6b7b8b9c4a0b2b
3b5b7b8b9c5a0b1b2b3b4c7b8zfKAI SYMBOLiPPA SYMBOLlORONISgYATHOS BASE SIGNrLETTER ARCHAIC KOPPAnDIGA
MMAhKOPPAfSAMPIeMALL CAPITAL GAMMAfLAMDAfOMEGAfPIbSIdRHOqTIGMAgYOTjITRA SIGNjOWER NUMERAL SIGNrUNA
TE EPSILON SYMBOLoSIGMA SYMBOLtMETRETES SIGNmUSICAL LEIMMAoNUMERAL SIGNmOBOL SIGNiNE HALF SIGNa AL
TERNATE FORMyQUARTER SIGNpUNKIA SIGNkXIAePERISPOMENIkHI SYMBOLjI SYMBOLiROSGEGRAMMENInSILIa AND OX
IAePERISPOMENIlVARIApQUESTION MARKnREVERSED LUNATE EPSILON SYMBOLzeHO SYMBOLgWITH STROKE SYMBOLwSI
NUSOID SIGNmMALL DOTTED LUNATE SIGMA SYMBOLzbLETTER ALPHAa WITH DASIAa AND OXIAa AND YPOGEGRAMMENI
wPERISPOMENIa AND YPOGEGRAMMENIzeVARIAa AND YPOGEGRAMMENIxYPOGEGRAMMENIxMACRONgOXIAa AND YPOGEGRAM
MENIwPERISPOMENIa AND YPOGEGRAMMENIzdSILIa AND OXIAa AND YPOGEGRAMMENIwPERISPOMENIa AND YPOGEGRAMM
ENIzeVARIAa AND YPOGEGRAMMENIxYPOGEGRAMMENIxTONOSfVARIAa AND YPOGEGRAMMENIwRACHYgYPOGEGRAMMENIxRCH
AIC KOPPAfSAMPInBETAeCHIdDELTAeIGAMMAhEPSILONa WITH DASIAa AND OXIAeVARIApOXIAePSILIa AND OXIAeVAR
IApTONOSfVARIArTAa WITH DASIAa AND OXIAa AND YPOGEGRAMMENIwPERISPOMENIa AND YPOGEGRAMMENIzeVARIA
a AND YPOGEGRAMMENIxYPOGEGRAMMENIxOXIAa AND YPOGEGRAMMENIwPERISPOMENIa AND YPOGEGRAMMENIzdSILIa AN
D OXIAa AND YPOGEGRAMMENIwPERISPOMENIa AND YPOGEGRAMMENIzeVARIAa AND YPOGEGRAMMENIxYPOGEGRAMMENIxT
ONOSfVARIAa AND YPOGEGRAMMENIxYPOGEGRAMMENIwFINAL SIGMAlGAMMAfHETAeIOTAa WITH DASIAa AND OXIAePERI
SPOMENIlVARIAoIALYTIKAa AND OXIAePERISPOMENIlTONOSfVARIAtMACRONgOXIAePERISPOMENIkSILIa AND OXIAePE
RISPOMENIlVARIApTONOSfVARIAeRACHYqKAPPAeOPPAfLAMDAfMUcNUcOMEGAa WITH DASIAa AND OXIAa AND YPOGEGRA
MMENIwPERISPOMENIa AND YPOGEGRAMMENIzeVARIAa AND YPOGEGRAMMENIxYPOGEGRAMMENIxOXIAa AND YPOGEGRAMME
NIwPERISPOMENIa AND YPOGEGRAMMENIzdSILIa AND OXIAa AND YPOGEGRAMMENIwPERISPOMENIa AND YPOGEGRAMMEN
IzeVARIAa AND YPOGEGRAMMENIxYPOGEGRAMMENIxTONOSfVARIAa AND YPOGEGRAMMENIxYPOGEGRAMMENIwICRONa WIT
H DASIAa AND OXIAeVARIApOXIAePSILIa AND OXIAeVARIApTONOSfVARIAsPAMPHYLIAN DIGAMMArHIcIbSIdRHOa WIT
H DASIAfPSILIoSAMPIdNcHOcIGMAeTIGMAgTAUcHETAfUPSILONa WITH DASIAa AND OXIAePERISPOMENIlVARIAoIALYT
IKAa AND OXIAePERISPOMENIlTONOSfVARIAtMACRONgOXIAePERISPOMENIkSILIa AND OXIAePERISPOMENIlVARIApTON
OSfVARIAeRACHYtXIcZETAlREVERSED DOTTED LUNATE SIGMA SYMBOLzbLUNATE SIGMA SYMBOLziUBSCRIPT SMALL LE
TTER BETAeCHIdGAMMAfPHIdRHOzaYMBOL TAU RHOoTALENT SIGNkHETA SYMBOLkREE OBOLS SIGNkQUARTERS SIGNsON
OSeRYBLION BASE SIGNrWO OBOLS SIGNkTHIRDS SIGNpUPSILON WITH ACUTE AND HOOK SYMBOLvDIAERESIS AND HO
OK SYMBOLzaHOOK SYMBOLyVARIAeOCAL NOTATION SYMBOL-1a0b1b2b3b4b5b6b7b8b9c2a0b1b2b3b4c3b4b5a0b1b2b3b
4c6b7b8b9xXESTES SIGNlYEAR SIGNiPOGEGRAMMENInZERO SIGNlN APPLEfBOOKeHEARTfSALADjIMACING FACElNNIN
G CAT FACE WITH SMILING EYESzbFACEa WITH ONE LARGE AND ONE SMALL EYEzcSMILING EYESlTAR EYESzbOUP M
ARKeSEPARATORmWING HEARTmSbUARANI SIGNiDSMANhIDE DOGgTAReJARATI ABBREVIATION SIGNrDIGIT EIGHTfFIVE
dOUReNINEeONEdSEVENeIXdTHREEeWOdZEROkLETTER AaAbIbUcBAbHAdCAbHAdDAbDAbHAdHAdEbGAbHAdHAcIaIcJAbHAdK
AbHAdLAbLAdMAcNAbGAcNAcYAdObPAbHAdRAcSAbHAcSAdTAbHAcTAbHAeUaUcVAbOCALIC LaLcRaRkYAcZHAkOMcRUPEE SI
GNkSIGN ANUSVARAhVAGRAHAiCANDRABINDUkIRCLE NUKTA ABOVEsMADDAHgNUKTAfSHADDAfUKUNfTHREE-DOT NUKTA AB
OVEuWO-CIRCLE NUKTA ABOVEwVIRAMAeSARGAmVOWEL CANDRA EbOiSIGN AAbIbUcCANDRA EbOiEbIaIcObUaUcVOCALI
C LaLcRaRzdNJALA GONDI DIGIT EIGHTfFIVEdOUReNINEeONEdSEVENeIXdTHREEeWOdZEROkLETTER AaAbIbUcBAbHAdC
AbHAdDAbDAbHAdHAdEEcGAbHAdHAcIaIcJAbHAdKAbHAdLAbLAdMAcNAbGAdOOcPAbHAdRAcSAcTAbHAcTAbHAeUaUcVAcYAjO
McSIGN ANUSVARAiVISARGAmVIRAMAfOWEL SIGN AAbIbUcEEcIaIcOOcUaUzaRMUKHI ABBREVIATION SIGNqDDAKfDIGI
T EIGHTfFIVEdOUReNINEeONEdSEVENeIXdTHREEeWOdZEROkEK ONKARiIRIdLETTER AaAbIbUcBAbHAdCAbHAdDAbDAbHAd
HAdEEcFAcGAbHAbHAeHAcIaIcJAbHAdKAbHAbHAeLAbLAdMAcNAbGAcNAcYAdOOcPAbHAdRAbRAdSAbHAdTAbHAcTAbHAeUaUc
VAcYAcZAjSIGN ADAK BINDIkBINDIfNUKTAfUDAATfVIRAMAeSARGAhYAKASHlTIPPIfURAdVOWEL SIGN AAbIbUcEEcIaIc
OOcUaUwHADESdIR SPACEgCUTfLFWIDTH BLACK SQUAREmDOWNWARDS ARROWpFORMS LIGHT VERTICALuHANGUL FILLERg
LETTER AaEcCHIEUCHgIEUCfEaObUcHIEUHfIaEUNGfKHIEUKHgIYEOKa-SIOSlMIEUMfNIEUNa-CIEUCfHIEUHlOaEcPHIEUP
HgIEUPa-SIOSkRIEULa-HIEUHfKIYEOKgMIEUMfPHIEUPHgIEUPfSIOSeTHIEUTHnSIOSdSANGCIEUCfKIYEOKgPIEUPfSIOSe
TIKEUTlTHIEUTHgIKEUTgUbWAaEcEaOcIcYAaEcEaOcIbObUqIDEOGRAPHIC COMMAfFULL STOPvKATAKANA LETTER AbEbH
AbEbIbObUcIbKAbEbIbObUcMAbEbIbObUcNaAbEbIbObUcObRAbEbIbObUcSAbEbIbMALL AbEbIbObTUcUbYAbObUhObUcTAb
EbIbObUcUbWAbOcYAbObUjMIDDLE DOTkSEMI-VOICED SOUND MARKwVOICED SOUND MARKs-HIRAGANA PROLONGED SOUN
D MARKznLEFT CORNER BRACKETpWARDS ARROWpRIGHT CORNER BRACKETpWARDS ARROWqUPWARDS ARROWnWHITE CIRCL
EuMBURGERgMERa AND PICKeSICKLEgWRENCHoSAbTER FACEkND WITH INDEX AND MIDDLE FINGERS CROSSEDzbFINGE
R AND THUMB CROSSEDzlBAGbLLeSHAKEgGUL CHOSEONG CEONGCHIEUMCHIEUCHgIEUCfSIOSdSANGCIEUCfSIOStHIEUCHa
-HIEUHfKHIEUKHmTUEUMCHIEUCHgIEUCfSIOSdSANGCIEUCfSIOSqIEUCa-IEUNGlFILLERgHIEUHa-SIOSkIEUNGa-CHIEUCH
gIEUCfHIEUHfKIYEOKgMIEUMfPANSIOSgHIEUPHgIEUPfRIEULfSIOSeTHIEUTHgIKEUTmKAPYEOUNMIEUMfPHIEUPHgIEUPfR
IEULfSSANGPIEUPrHIEUKHgIYEOKa-TIKEUTnMIEUMa-KIYEOKgPIEUPfSIOSeTIKEUTmNIEUNa-CIEUCfHIEUHfKIYEOKgPIE
UPfSIOSeTIKEUTmPANSIOSgHIEUPHa-HIEUHfPIEUPmIEUPa-CHIEUCHgIEUCfHIEUHfKHIEUKHgIYEOKgNIEUNfPHIEUPHhSI
OSa-CIEUCfKIYEOKgPIEUPfTHIEUTHgIKEUTkSANGSIOSjTHIEUTHgIKEUTmRIEULa-CIEUCfHIEUHfKAPYEOUNPIEUPmHIEUK
HgIYEOKgMIEUMfNIEUNfPIEUPfSIOSdSANGKIYEOKgPIEUPfTIKEUTlTIKEUTmSIOSa-CHIEUCHgIEUCfHIEUHfIEUNGfKHIEU
KHgIYEOKgMIEUMfNIEUNfPHIEUPHgIEUPa-KIYEOKmRIEULfSSANGSIOSjTHIEUTHgIKEUTkSANGCIEUCa-HIEUHlHIEUHfIEU
NGfKIYEOKgNIEUNfPIEUPfRIEULfSIOSa-PIEUPkTHIEUTHgIKEUTgYEORINHIEUHqTHIEUTHgIKEUTa-CIEUCfKIYEOKgMIEU
MfPIEUPfRIEULfSIOSlYEORINHIEUHjSIEUNGrDOUBLE DOT TONE MARKuFILLERgJONGSEONG CHIEUCHgIEUCa-PIEUPfSS
ANGPIEUPqHIEUHa-MIEUMfNIEUNfPIEUPfRIEULlIEUNGa-KHIEUKHgIYEOKgSSANGKIYEOKrKAPYEOUNMIEUMfPHIEUPHgIEU
PfRIEULmHIEUKHgIYEOKa-CHIEUCHhHIEUHfKHIEUKHhNIEUNfPIEUPfRIEULfSIOSa-KIYEOKsMIEUMa-CHIEUCHgIEUCfHIE
UHfKIYEOKgNIEUNfPANSIOSgIEUPa-SIOSkRIEULfSIOSdSANGNIEUNfSIOSpNIEUNa-CHIEUCHgIEUCfHIEUHfKIYEOKgPANS
IOShRIEULfSIOSeTHIEUTHgIKEUTmPANSIOSa-KAPYEOUNPIEUPnPIEUPmHIEUPHa-PIEUPfSIOSeTHIEUTHoIEUPa-CHIEUCH
gIEUCfHIEUHfMIEUMfPHIEUPHhRIEULa-PHIEUPHnSIOSa-TIKEUTlTIKEUTmRIEULa-HIEUHfKAPYEOUNPIEUPmHIEUKHgIYE
OKa-HIEUHfSIOSlMIEUMa-HIEUHfKIYEOKgSIOSkNIEUNfPANSIOSgHIEUPHgIEUPa-HIEUHfPHIEUPHhSIOSeTIKEUTmSIOSd
SANGKIYEOKgSIOSjTHIEUTHgIKEUTa-HIEUHmYEORINHIEUHa-HIEUHpSIEUNGoSIOSa-CHIEUCHgIEUCfHIEUHfKAPYEOUNPI
EUPmIYEOKgMIEUMfPANSIOSgIEUPfRIEULfTHIEUTHgIKEUTkSANGCIEUCfIEUNGfKIYEOKgMIEUMfNIEUNfPIEUPfRIEULa-K
HIEUKHnSIOSa-KIYEOKgTIKEUTlTIKEUTa-PIEUPmYESIEUNGnTHIEUTHgIKEUTa-CHIEUCHgIEUCfKIYEOKgPIEUPfRIEULfS
IOSa-KIYEOKlTHIEUTHoYEORINHIEUHjSIEUNGa-HIEUHfKHIEUKHgIYEOKgMIEUMfPANSIOShSIOSdSANGKIYEOKzeUNGSEON
G Aa-EUcObUcEbRAEAa-AbEaOcIbUhEaOa-EUcObUdUa-AbEaObUcObUeFILLERgIa-AaRAEAfEUcIbOa-IdUbYAa-OcEcEaOc
ObUeOa-EaOcOa-IdUbYAaEcEaOeEcSSANGARAEAkUa-AaEcEO-EUfI-IdUbYEaOfWAaEcEaOcIcYAa-ObUbYOdEcEaOa-ObUbY
AfIa-UdOa-AaEcEOcIbObYAaEcEOfUa-AaEcEaOcIbObUbYEaOqLETTER AaEbRAEAaEgCHIEUCHgIEUCfEaObUcHIEUHfIaEU
NGfKAPYEOUNMIEUMfPHIEUPHgIEUPfSSANGPIEUPrHIEUKHgIYEOKa-SIOSlMIEUMa-PANSIOSgIEUPfSIOSkNIEUNa-CIEUCf
HIEUHfPANSIOShSIOSeTIKEUTmOaEcPANSIOSgHIEUPHgIEUPa-CIEUCfKIYEOKgSIOSa-KIYEOKgTIKEUTlTHIEUTHgIKEUTm
RIEULa-HIEUHfKIYEOKa-SIOSlMIEUMfPANSIOSgHIEUPHgIEUPa-SIOSkSIOSeTHIEUTHgIKEUTgYEORINHIEUHrSIOSa-CIE
UCfKIYEOKgNIEUNfPIEUPfTIKEUTkSANGCIEUCfHIEUHfIEUNGfKIYEOKgNIEUNfPIEUPfSIOSeTIKEUTlTHIEUTHgIKEUTgUb
WAaEcEaOcIcYAaEcEaOaRINHIEUHjSIEUNGa-PANSIOShSIOSmIbOa-IbYAaEfUa-IbYEaOnSINGLE DOT TONE MARKxZHO
U NUMERAL EIGHTfFIVEdOUReNINEeONEdSEVENeIXdTENcHIRTYeREEeWENTYeOrIFI ROHINGYA DIGIT EIGHTfFIVEdOUR
eNINEeONEdSEVENeIXdTHREEeWOdZEROkLETTER AbBAcCAcDAbDAdFAcGAcHAcJAcKAbHAcINNA WAcYAiLAcMAcNAbGAcYAd
PAcRAbRAdSAbHAdTAbTAdVAcWAcYAcZAjMARK NA KHONNAjSAKINkSIGN HARBAHAYiTAHALAeNAcSSIkVOWEL AbEbIbObUu
UNOO LETTER AbBAcDAcGAcHAcIbKAcLAcMAcNAbGAdPAcRAcSAcTAcUbWAcYAjSIGN PAMUDPODnVOWEL SIGN IbUsPPY PE
RSON RAISING ONE HANDzcRD DISKhTCHING CHICKlRAN LETTER ALEPHeYNdBETHeDALETH-RESHlGIMELfHEaTHeKAPHe
LAMEDHgMEMdNUNdPEcQOPHeSADHEdMEKHfHINeTAWcETHeWAWdYODHeZAYNlNUMBER FIVEeONEa HUNDREDlTENcWENTYtEAD
PHONEfSTONEa GRAVEYARD SYMBOLxR-NO-EVIL MONKEYpT DECORATIONkHANDSfWITH ARROWfRIBBONgTIP ON THE LEF
TxVY AMPERSAND ORNAMENTrRROW SHAFT WIDTH ONEa HALFeTHIRDjTWO THIRDSzcSTERISKiBALLOT XhLACK CURVE
D DOWNWARDS AND RIGHTWARDS ARROWzfUPWARDS AND RIGHTWARDS ARROWzkHEARTg-FEATHERED NORTH EAST ARROWq
RIGHTWARDS ARROWqSOUTH EAST ARROWzhCHECK MARKhVRON SNOWFLAKEqIRCLEa WITH CIRCLE INSIDEnSTROKE AN
D TWO DOTS ABOVEzgD SALTIREoONCAVE-POINTED BLACK RIGHTWARDS ARROWznDASHED TRIANGLE-HEADED RIGHTWAR
DS ARROWznIVISION SIGNmOLLAR SIGNjUBLE COMMA QUOTATION MARK ORNAMENTzeTURNED COMMA QUOTATION MAR
K ORNAMENTzqWNWARDS ARROW WITH EQUILATERAL ARROWHEADvLARGE EQUILATERAL ARROWHEADzxEIGHT POINTED BL
ACK STARkPINWHEEL STARnRECTILINEAR BLACK STARzfSPOKED ASTERISKpTEARDROP-SPOKED PROPELLER ASTERISKz
oQUALS SIGNkXCLAMATION MARK ORNAMENTiSYMBOLxFIVE POINTED BLACK STARsSPOKED ASTERISKtOUR BALLOON-SP
OKED ASTERISKzdGREEK CROSSlHEART EXCLAMATION MARK ORNAMENTzfORIZONTAL FILLpINTERROBANG ORNAMENTuLA
RGE CIRCLEkTIN CROSSkEFT-POINTING ANGLE BRACKET ORNAMENTqQUOTATION MARK ORNAMENTzoWARDS ARROW WIT
H EQUILATERAL ARROWHEADvLARGE EQUILATERAL ARROWHEADzwIGATURE OPEN ET ORNAMENTyOW DOUBLE COMMA QUOT
ATION MARK ORNAMENTzlSINGLE COMMA QUOTATION MARK ORNAMENTzmER RIGHT-SHADOWED WHITE RIGHTWARDS ARRO
WzsMINUS SIGNjULTIPLICATION XqNORTH EAST ARROWfPOINTING BUDdVINE LEAFxWEST POINTING BUDdVINE LEAFz
eOPEN CENTRE CROSSqUTLINED BLACK STARsVAL WITH OVAL INSIDEvPLUS SIGNjRIGHT-POINTING ANGLE BRACKE
T ORNAMENTqQUOTATION MARK ORNAMENTzoWARDS ARROWa WITH EQUILATERAL ARROWHEADvLARGE EQUILATERAL ARRO
WHEADzxOUND-TIPPED RIGHTWARDS ARROWzeSALTIREfNS-SERIF INTERROBANG ORNAMENTzfCRIPT LIGATURE ET ORNA
MENTzbINGLE COMMA QUOTATION MARK ORNAMENTzeTURNED COMMA QUOTATION MARK ORNAMENTzqX POINTED BLACK S
TARsSPOKED ASTERISKsOUTH EAST ARROWfPOINTING BUDdVINE LEAFxWEST POINTING BUDdVINE LEAFzdPARKLEhTEA
RDROP-SHANKED RIGHTWARDS ARROWxPOKED ASTERISKiPINWHEEL ASTERISKzhRIANGLE-HEADED RIGHTWARDS ARROWzg
WELVE POINTED BLACK STARkPINWHEEL STARzdUPPER RIGHT-SHADOWED WHITE RIGHTWARDS ARROWzqWARDS ARROW W
ITH EQUILATERAL ARROWHEADvLARGE EQUILATERAL ARROWHEADzvVERTICAL BARmWEDGE-TAILED RIGHTWARDS ARROWz
dHITE CIRCLEgDOWN-POINTING TRIANGLEwSQUARElIDE-HEADED RIGHTWARDS ARROWzhBREW ACCENT ATNAH HAFUKHmD
ARGAeEHIeETNAHTAhGERESHa MUQDAMkSHAYIMjILUYeMAHAPAKHhERKHAa KEFULAmUNAHfOLEdPASHTAeZERfQADMAdRNE
Y PARAlREVIAfSEGOLeHALSHELETkTELISHA GEDOLAgQETANAmVIReIPEHAgYERAH BEN YOMOmTIVfZAQEF GADOLfQATANj
RQAeINORmLETTER ALEFa WITH MAPIQfPATAHfQAMATSoTERNATIVE AYINePLUS SIGNuYINeBETa WITH DAGESHgRAFEnD
ALETa WITH DAGESHrFINAL KAFa WITH DAGESHpMEMdNUNdPEa WITH DAGESHoTSADIlGIMELa WITH DAGESHrHEa WIT
H MAPIQlTdKAFa WITH DAGESHgRAFEnLAMEDa WITH DAGESHrMEMa WITH DAGESHpNUNa WITH DAGESHpPEa WITH DAGE
SHgRAFEmQOFa WITH DAGESHpRESHa WITH DAGESHqSAMEKHa WITH DAGESHrHINa WITH DAGESHa AND SHIN DOThIN D
OTsSHIN DOThIN DOTrTAVa WITH DAGESHoETa WITH DAGESHoSADIa WITH DAGESHrVAVa WITH DAGESHgHOLAMoWID
E ALEFeDALETfFINAL MEMjHEcKAFdLAMEDfRESHeTAViYODa WITH DAGESHgHIRIQoZAYINa WITH DAGESHxIGATURE ALE
F LAMEDkYIDDISH DOUBLE VAVdYODkVAV YODhYOD YOD PATAHzfMARK LOWER DOTjMASORA CIRCLEnUPPER DOToPOIN
T DAGESH OR MAPIQpHATAF PATAHfQAMATSgSEGOLkIRIQeOLAMa HASER FOR VAVtJUDEO-SPANISH VARIKAuMETEGfPAT
AHfQAMATSa QATANlUBUTSgRAFEeSEGOLeHEVAdIN DOThIN DOThTSEREkUNCTUATION GERESHdSHAYIMjMAQAFfNUN HAFU
KHAlPASEQfSOF PASUQvYOD TRIANGLErDGEHOGgLICOPTERhLSCHREIBER PAUSE SYMBOLxM SYMBOLhET WITH WHITE CR
OSSvNTAIGANA LETTER A-1b2b3bWOeE-1b2b3b4b5b6dHA-1a0b1c2b3b4b5b6b7b8b9dE-1b2b3b4b5b6b7dI-1b2b3b4b5b
6b7dO-1b2b3b4b5b6b7b8dU-1b2b3eI-1b2b3b4dKA-1a0b1c2b3b4b5b6b7b8b9bKEeE-1b2b3b4b5b6dI-1b2b3b4b5b6b7b
8dO-1b2b3bKIeU-1b2b3b4b5b6b7eMA-1b2b3b4b5b6b7dE-1b2bMAeI-1b2b3b4b5b6b7dO-1b2b3b4b5b6dU-1b2b3b4eN-M
U-MO-1b2iA-1b2b3b4b5b6b7b8b9dE-1b2b3b4b5b6bKOeI-1b2b3b4b5b6b7bTEeO-1b2b3b4b5dU-1b2b3eO-1b2b3dRA-1b
2b3b4dE-1b2b3b4dI-1b2b3b4b5b6b7dO-1b2b3b4b5b6dU-1b2b3b4b5b6eSA-1b2b3b4b5b6b7b8dE-1b2b3b4b5dI-1b2b3
b4b5b6dO-1b2b3b4b5b6b7dU-1b2b3b4b5b6b7b8eTA-1b2b3b4dE-1b2b3b4b5b6b7b8b9dI-1b2b3b4b5b6b7dO-1b2b3b4b
5b6bRAeU-1b2b3b4bTOfU-1b2b3b4b5dWA-1b2b3b4b5dE-1b2b3b4dI-1b2b3b4b5dO-1b2b3b4b5b6b7eYA-1b2b3b4b5bYO
eO-1b2b3b4b5b6dU-1b2b3b4uRBbMITIAN CONJUGATE MATRIXyXAGRAM FOR ABUNDANCEiFTER COMPLETIONpPPROACHiB
EFORE COMPLETIONqITING THROUGHnREAKTHROUGHmCOMING TO MEETmNFLICTfTEMPLATIONnDARKENING OF THE LIGHT
vECREASEgLIVERANCEjVELOPMENTkIFFICULTY AT THE BEGINNINGzaSPERSIONjURATIONiENTHUSIASMkFELLOWSHIPjOL
LOWINGjGATHERING TOGETHERrRACEdEAT POSSESSIONiWEReREPONDERANCEnTAMINGmHOLDING TOGETHERqINCREASEgFL
UENCEhNER TRUTHiOCENCEjLIMITATIONkMODESTYfUTH CORNERSnOBSTRUCTIONkPPOSITIONhRESSIONkPEACEeROGRESSh
USHING UPWARDoRETREATeURNeVOLUTIONkSMALL PREPONDERANCEnTAMINGlPLITTING APARToTANDSTILLkTHE ABYSMA
L WATERmRMYcOUSING THUNDERqCAULDRONhLINGING FIREmREATIVE HEAVENpFAMILYgGENTLE WINDlJOYOUS LAKElKEE
PING STILL MOUNTAINwMARRYING MAIDENpRECEPTIVE EARTHpWANDERERhELLhREADINGiWAITINGgORK ON THE DECAYE
DtYOUTHFUL FOLLYzbIBISCUSgGH BRIGHTNESS SYMBOLrOCTET PRESETmVOLTAGE SIGNn-HEELED SHOElSPEED TRAIN
a WITH BULLET NOSEzgKING BOOTjNDU TEMPLEkPPOPOTAMUSkRAGANA DIGRAPH YORImITERATION MARKoLETTER AaRC
HAIC WUcYEkBAbEbIbObUcDAbEbIbObUcEbGAbEbIbObUcHAbEbIbObUcIbKAbEbIbObUcMAbEbIbObUcNaAbEbIbObUcObPAb
EbIbObUcRAbEbIbObUcSAbEbIbMALL AbEbIbKAbEcObTUcUbWAbEbIbOcYAbObUhObUcTAbEbIbObUcUbVUcWAbEbIbOcYAbO
bUcZAbEbIbObUjVOICED ITERATION MARKzdSTORIC SITEmOCHOdLEbLOW QUILT SQUARE ORNAMENTa IN BLACK SQUAR
EzrMOTHETICiNEY POTeBEEgOKcPbRIZONTAL BARcLACK HEXAGONhOCTAGONnELLIPSISiLINE EXTENSIONoMALE WITH S
TROKE SIGNvONE EIGHTH BLOCK-1358e2b3b4b5b6b7sSCAN LINE-1b3b7b9lTAB KEYeULATIONa SETdWITH JUSTIFICA
TIONzdRAFFIC LIGHTvSEa FACEeRACINGkSPITALgT BEVERAGEiDOGdPEPPERgSPRINGSiELdURGLASSa WITH FLOWING S
ANDySEa BUILDINGaSjWITH GARDENqRYVNIA SIGNlTaJbScUGGING FACEkNDRED POINTS SYMBOLtSHED FACEjTcYGIEA
ePHENa BULLETgWITH DIAERESISp-MINUSgATION POINToODIASTOLEkSTERESIS SYMBOLrI LOVE YOU HAND SIGNtC
E CREAMeUBEeHOCKEY STICK AND PUCKvSKATEiDENTICAL TOa AND SLANTED PARALLELxWITH DOT ABOVEsFICATIO
N CARDqOGRAPHIC ANNOTATION BOTTOM MARKlEARTH MARKkFIRST MARKjOUR MARKfTH MARKlHEAVEN MARKlLINKIN
G MARKmMAN MARKhIDDLE MARKlONE MARKiREVERSE MARKmSECOND MARKlTHIRD MARKiREE MARKjOP MARKhWO MARKtC
LOSING MARKlOMMAfDEPARTING TONE MARKrSCRIPTION CHARACTER ABOVE TO BELOWfMIDDLE AND BELOWzaFULL SUR
ROUNDnLEFT TO MIDDLE AND RIGHTqRIGHTnOVERLAIDiSURROUND FROM ABOVEfBELOWfLEFTdOWER LEFTkUPPER LEFTe
RIGHTzwENTERING TONE MARKsFULL STOPjHALF FILL SPACEpITERATION MARKoLEVEL TONE MARKpNUMBER ZEROlRIS
ING TONE MARKqSPACEfTALLY MARK FIVEdOUReONEdTHREEeWOnELEGRAPH LINE FEED SEPARATOR SYMBOLzbSYMBOL F
OR APRILeUGUSTgDAY EIGHTaEENhLEVENgFIFTEENfVEdOURaTEENiNINEaTEENiONEdSEVENaTEENiIXaTEENhTENcHIRTEE
NdYa-ONEiREEeWELVEdNTYa-EIGHTfFIVEdOUReNINEeONEdSEVENeIXdTHREEeWOiOgECEMBERiFEBRUARYiHOUR EIGHTaEE
NhLEVENgFIFTEENfVEdOURaTEENiNINEaTEENiONEdSEVENaTEENiIXaTEENhTENcHIRTEENgREEeWELVEdNTYa-FOUReONEdT
HREEeWOiOdZEROjJANUARYgULYcNEeMARCHdYdNOVEMBERiOCTOBERhSEPTEMBERzfVARIATION INDICATORzfMAGE OFa O
R APPROXIMATELY EQUAL TOzhPaERIAL ARAMAIC LETTER ALEPHeYINeBETHeDALETHgGIMELfHEaTHeKAPHeLAMEDHgMEM
dNUNdPEcQOPHeRESHeSADHEdMEKHfHINeTAWcETHeWAWdYODHeZAYINmNUMBER ONEa HUNDREDhTHOUSANDmTENa THOUSAND
lHREEeWENTYeOkSECTION SIGNzdNBOX TRAYiCOMING ENVELOPEmPLETE INFINITYqREASE FONT SIZE SYMBOLrS AShM
ENThDaEXa POINTING AT THE VIEWERzaIAN RUPEE SIGNnC SIYAQ ALTERNATE LAKH MARKtFRACTION ONE HALFeQUA
RTERlTHREE QUARTERSxLAKH MARKjNUMBER ALTERNATE ONEdTEN THOUSANDlWOnEIGHTa HUNDREDhTHOUSANDjYa THOU
SANDpFIFTYa THOUSANDmVEa HUNDREDhTHOUSANDmORTYa THOUSANDmURa HUNDREDhTHOUSANDnKARORaANhLAKHaANgNIN
Ea HUNDREDhTHOUSANDjTYa THOUSANDpONEa HUNDREDhTHOUSANDmPREFIXED EIGHTfFIVEdOUReNINEeONEdSEVENeIXdT
HREEeWOmSEVENa HUNDREDhTHOUSANDjTYa THOUSANDpIXa HUNDREDhTHOUSANDjTYa THOUSANDoTENa THOUSANDlHIRTY
a THOUSANDnREEa HUNDREDhTHOUSANDnWENTYa THOUSANDnOa HUNDREDhTHOUSANDtPLACEHOLDERlRUPEE MARKuFINITY
a NEGATED WITH VERTICAL BARzgORMATION DESK PERSONlSEPARATOR FOUReONEdTHREEeWOmOURCEqHIBIT ARABIC F
ORM SHAPINGtSYMMETRIC SWAPPINGyPUT SYMBOL FOR LATIN CAPITAL LETTERSpLETTERShSMALL LETTERStNUMBERSh
SYMBOLSwSCRIPTIONAL PAHLAVI LETTER ALEPHfBETHeDALETHgGIMELfHEaTHeKAPHeLAMEDHgMEM-QOPHiNUNdPEcSADHE
dMEKHfHINeTAWcETHeWAW-AYIN-RESHnYODHeZAYINmNUMBER FOUReONEa HUNDREDhTHOUSANDmTENcHREEeWENTYeOqRTHI
AN LETTER ALEPHeYINeBETHeDALETHgGIMELfHEaTHeKAPHeLAMEDHgMEMdNUNdPEcQOPHeRESHeSADHEdMEKHfHINeTAWcET
HeWAWdYODHeZAYINmNUMBER FOUReONEa HUNDREDhTHOUSANDmTENcHREEeWENTYeOzfERTION SYMBOLoTEGRALa AROUN
D A POINT OPERATORwVERAGE WITH SLASHsEXTENSIONjWITH DOUBLE STROKEnINTERSECTIONmLEFTWARDS ARROW WIT
H HOOKzaOVERBARhTIMES SIGNkUNDERBARgIONpRCALATEgIOR PRODUCTlLINEAR ANNOTATION ANCHORgSEPARATORjTER
MINATORzcOCKED FEMALE AND MALE SIGNzcROBANGgSECTIONa ABOVE BAR ABOVE UNIONpUNIONlBESIDE AND JOINE
D WITH INTERSECTIONzkWITH DOTdLOGICAL ANDlOVERBARxVERSE BULLETgCHECK MARKfER BOARD FILLsDOWNWARD
S ARROW WITH TIP LEFTWARDSzjMEDIUM SHADEmWHITE CIRCLEpTED EXCLAMATION MARKqINTERROBANGlLAZY SfOW K
AVYKAa WITH KAVYKA ABOVEzdOHM SIGNiPENTAGRAMjQUESTION MARKnUNDERTIEoISIBLE PLUSeSEPARATORjTIMESoZA
KAYA LANTERNpJACK-O-LANTERNmPANESE BANK SYMBOLlCASTLEgDOLLSfGOBLINgINDUSTRIAL STANDARD SYMBOLzbOGR
EePOST OFFICElSYMBOL FOR BEGINNERzbRbVANESE CONSONANT SIGN CAKRAfKERETfPENGKALwDIGIT EIGHTfFIVEdOU
ReNINEeONEdSEVENeIXdTHREEeWOdZEROkLEFT RERENGGANmTTER AaIcBAa MURDAiCAa MURDAiDAa MAHAPRANAlDAa MA
HAPRANAnEbGAa MURDAiHAcIa KAWIfIcJAa MAHAPRANAmKAa MURDAfSASAKiLAcMAcNAa MURDAhGAa LELETa RASWADIq
YAa MURDAjObPAa CEREKfMURDAiRAa AGUNGiSAa MAHAPRANAiURDAiTAa MURDAhTAa MAHAPRANAnUbWAcYAjPADA ADEG
a ADEGiNDAPfISEN-ISENjLINGSAfUHURdNGSIgMADYAfPANGKATgISELEHhTIRTA TUMETESnWINDUiNGKONdRANGKEPlRIGH
T RERENGGANpSIGN CECAKa TELUkLAYARfPANYANGGAjWIGNYANmTURNED PADA PISELEHtVOWEL SIGN DIRGA MUREkPEP
ETfSUKUa MENDUTlTALINGeRUNGfOLONGgWULUa MELIKzeEANSeIGSAW PUZZLE PIECEsOINcYSTICKhUGGLINGgNOcPITER
hKAABAdITHI ABBREVIATION SIGNrDANDAeOUBLE DANDAfSECTION MARKtENUMERATION SIGNqLETTER AaAbIbUcBAbHA
dCAbHAdDAbDAbDHAdHAdHAdEbGAbHAdHAcIaIcJAbHAdKAbHAdLAcMAcNAbGAcNAcYAdObPAbHAdRAbHAdSAbHAcSAdTAbHAcT
AbHAeUaUcVAcYAjNUMBER SIGNa ABOVErSECTION MARKlIGN ANUSVARAiCANDRABINDUlNUKTAfVIRAMAeSARGAmVOWEL S
IGN AAbIbUcEbIaIcObUaUcVOCALIC RzaNGAROOeXI RADICAL AGAINeNDcRRIVEdOWeXEdBADGEReMBOOfEANdIGbRDcTTE
RfLACKdOODdUEdOATcDYcLT OF CLOTHlNEcWcRANCHeISTLEfUSHfCARTcULDRONgVEdHILDeITYdLANbWcIFFdOTHESgOLOR
dMPAREfRPSEeVERdWdDEATHdERdIPPEReSHbTINGUISHjVINATIONjO NOTeGbORcTaTED CLIFFfTENTjUBLE XgWN BOXhRA
GONeUMcYdEARaTHdTcIGHTeMBROIDERYjNCLOSUREhTEReVENaINGgYEdFACEcNGcTHERfEATHERgIELDdGHTdREcSHdLUTEdY
cOOTdRAGRANTgOGdURdGATEdHOSTeOa SLOWLYhLDdRAINcSSfHAIRcLBERDeF TREE TRUNKnNDdEADbRTdMPdIDING ENCLO
SUREpOOKcRNbSEfICEcNCHcSECTgJADEcRdKNIFEfLACKcMEdEAFbTHERfEKcGSdIDbFEcNEdONGa STRIDElMANcEATcLONeI
LLETeNISTERhOONcRNINGeTAReUNDbTAINfTHfNETcOSEcTdOLDcNEaSELFgPEN BOXgPOSEgPIGcLOWdOWEReRIVATEfOFOUN
DiRAINcPbTcEDcICEcGHT OPEN BOXmVEReOOFdUNdSACRIFICIAL WINEoLTcYcCHOLARfRIPTfEALcCONDeEbLFdHEEPcLLd
OOTcRT TAILED BIRDkHREADlICKNESSgLKdKINdLASHcVEdICEeMALLeNOUTeOUNDePEARcECHeIRITeOONdROUTfQUAREfTA
NDdEAMcPcONEcPaPINGhUNcWEETfTABLEdLLcNNED LEATHERnENcIGERdLEdONGUEeOTHeRACKdEEcIPODfURBANdTLEfWO
a HANDSjUSEdVALLEYfILLAGEhWALKa ENCLOSUREmTEReEAPONeSTdHEATdITEeINDbEdOMANdRKdRAPcONGfYELLOWsNAD
A AI LENGTH MARKoDIGIT EIGHTfFIVEdOUReNINEeONEdSEVENeIXdTHREEeWOdZEROkLENGTH MARKjTTER AaAbIbUcBAb
HAdCAbHAdDAbDAbHAdHAdEaEcFAcGAbHAdHAcIaIcJAbHAdKAbHAdLAbLAbLAeMAcNAaKAARA POLLUmGAcNAcYAdOaOcPAbHA
dRAbRAdSAbHAcSAdTAbHAcTAbHAeUaUcVAbOCALIC LaLcRaRkYAjSIGN ANUSVARAhVAGRAHAiCANDRABINDUlJIHVAMULIYA
lNUKTAfSIDDHAMgPACING CANDRABINDUtUPADHMANIYAlVIRAMAeSARGAmVOWEL SIGN AAbIbUcEaEcIaIcOaOcUaUcVOCAL
IC LaLcRaRzcTAKANA DIGRAPH KOTOmITERATION MARKoLETTER AaRCHAIC EbWUcYEbIkBAbEbIbObUcDAbEbIbObUcEbG
AbEbIbObUcHAbEbIbObUcIbKAbEbIbObUcMAbEbIaNNAN NASALIZED TONE-1b2b3b4b5b7b8qTONE-2b3b4b5b7b8mObUcNa
AbEbIbObUcObPAbEbIbObUcRAbEbIbObUcSAbEbIbMALL AbEbHAbEbIbObUcIbKAbEbUcMUcNaUcObRAbEbIbObUcSIbUcTOb
UcUbWAbEbIbOcYAbObUhObUcTAbEbIbObUcUbVAbEbIbObUcWAbEbIbOcYAbObUcZAbEbIbObUjMIDDLE DOTkVOICED ITERA
TION MARKw-HIRAGANA DOUBLE HYPHENnPROLONGED SOUND MARKuSEMI-VOICED SOUND MARKwVOICED SOUND MARKziY
AH LI DIGIT EIGHTfFIVEdOUReNINEeONEdSEVENeIXdTHREEeWOdZEROkLETTER AbBAcCAcDAcGAcHAbTAdIbKAbHAdLAcM
AcNAbGAcYAdOEbOcPAbHAdRAcSAbHAdTAbHAdVAcWAcYAcZAjSIGN CWIdSHYAjTONE CALYAa PLOPHUmPLOPHUlVOWEL EaE
cObUaEqELVIN SIGNjYaBOARDa AND MOUSEpCAP TENjHAROSHTHI DIGIT FOUReONEdTHREEeWOjFRACTION ONE HALFrL
ETTER AbBAbHAdCAbHAdDAbDAbHAdHAdGAbHAdHAcJAcKAbHAcKAdLAcMAcNAbNAcYAdPAbHAdRAcSAbHAcSAdTAbHAcTAbHAc
TAbHAfVAbHAdYAcZAjNUMBER ONE HUNDREDhTHOUSANDmTENcWENTYnPUNCTUATION CIRCLEfRESCENT BARmDANDAeOTbUB
LE DANDAmLINESeOTUSfMANGALAMiSMALL CIRCLEySIGN ANUSVARAiBAR ABOVEjCAUDAfDOT BELOWhUBLE RING BELOWr
VISARGAmVIRAMAfOWEL LENGTH MARKlSIGN EbIbObUbVOCALIC RzeITAN SMALL SCRIPT CHARACTER-18B00b1b2b3b4b
5b6b7b8b9bAbBbCbDbEbFc10b1b2b3b4b5b6b7b8b9bAbBbCbDbEbFc20b1b2b3b4b5b6b7b8b9bAbBbCbDbEbFc30b1b2b3b4
b5b6b7b8b9bAbBbCbDbEbFc40b1b2b3b4b5b6b7b8b9bAbBbCbDbEbFc50b1b2b3b4b5b6b7b8b9bAbBbCbDbEbFc60b1b2b3b
4b5b6b7b8b9bAbBbCbDbEbFc70b1b2b3b4b5b6b7b8b9bAbBbCbDbEbFc80b1b2b3b4b5b6b7b8b9bAbBbCbDbEbFc90b1b2b3
b4b5b6b7b8b9bAbBbCbDbEbFcA0b1b2b3b4b5b6b7b8b9bAbBbCbDbEbFcB0b1b2b3b4b5b6b7b8b9bAbBbCbDbEbFcC0b1b2b
3b4b5b6b7b8b9bAbBbCbDbEbFcD0b1b2b3b4b5b6b7b8b9bAbBbCbDbEbFcE0b1b2b3b4b5b6b7b8b9bAbBbCbDbEbFcF0b1b2
b3b4b5b6b7b8b9bAbBbCbDbEbFdC00b1b2b3b4b5b6b7b8b9bAbBbCbDbEbFc10b1b2b3b4b5b6b7b8b9bAbBbCbDbEbFc20b1
b2b3b4b5b6b7b8b9bAbBbCbDbEbFc30b1b2b3b4b5b6b7b8b9bAbBbCbDbEbFc40b1b2b3b4b5b6b7b8b9bAbBbCbDbEbFc50b
1b2b3b4b5b6b7b8b9bAbBbCbDbEbFc60b1b2b3b4b5b6b7b8b9bAbBbCbDbEbFc70b1b2b3b4b5b6b7b8b9bAbBbCbDbEbFc80
b1b2b3b4b5b6b7b8b9bAbBbCbDbEbFc90b1b2b3b4b5b6b7b8b9bAbBbCbDbEbFcA0b1b2b3b4b5b6b7b8b9bAbBbCbDbEbFcB
0b1b2b3b4b5b6b7b8b9bAbBbCbDbEbFcC0b1b2b3b4b5b6b7b8b9bAbBbCbDbEbFcD0b1b2b3b4b5pFILLERyMER CURRENC
Y SYMBOL RIELuDIGIT EIGHTfFIVEdOUReNINEeONEdSEVENeIXdTHREEeWOdZEROkINDEPENDENT VOWEL LYaYdQAAbIbQb
UcEbIaIcOO TYPE ONEdTWOlUaKbUaVeRYaYvLETTER BAcCAbHAbOcOcDAbOcHAcKAbHAbOcOcLAbOcMOcNGOcNOcObYOdPHA
bOcOcQAcROcSAbHAcSOdTAbHAbOcObTHAbOeVOcYOjSIGN AHSDAeTTHACANhVAKRAHASANYAnBANTOCeRIYOOSANiTHAMASAT
jEYYALgCAMNUC PII KUUHoOENGfKAKABATgHANdOOMUUThLEK TOOhMUUSIKATOANlNIKAHIThPHNAEK MUANlREAHMUKgOBA
TfSAMYOK SANNYAnTOANDAKHIATkRIISAPhVIRIAMgYUUKALEAPINTUrYMBOL BEI KOETeROCgUON KOETeROCiDAP KOETeR
OCe-BEI KOETeROCgUON KOETeROCiMUOY KOETeROCiPII KOETeROCgRAM KOETeROCmLEK ATTAK BEIcUONeMUOYePIIcR
AMa-BEIcUONeMUOYePIIiSONnMUOY KOETeROCiPATHAMASATjII KOETeROCgRAM KOETeROCe-BEI KOETeROCgUON KOETe
ROCiMUOY KOETeROCiPII KOETeROCmTUTEYASATqVOWEL INHERENT AAbQlSIGN AAbEbIbUcEbIaEbIcOEbOcUaAbUcYaAb
YrOJKI ABBREVIATION SIGNrDANDAeOUBLE DANDAfSECTION MARKtLETTER AaAbIbUcBAbBAcHAdCAbHAdDAbDAbDAcHAd
HAdEbGAbGAcHAdHAcIbJAbJAdKAbHAdLAbLAdMAcNAbGAcNAcYAdObPAbHAdRAcSAcTAbHAcTAbHAeUbVAcYAjSECTION MARK
lIGN ANUSVARAiNUKTAfSHADDAfUKUNfVIRAMAlVOWEL SIGN AAbIbUcEbIaIcObUmWORD SEPARATORtUDAWADI DIGIT EI
GHTfFIVEdOUReNINEeONEdSEVENeIXdTHREEeWOdZEROkLETTER AaAbIbUcBAbBAcHAdCAbHAdDAbDAbDAcHAdHAdEbGAbGAc
HAdHAcIaIcJAbHAcJAdKAbHAdLAcMAcNAbGAcNAcYAdObPAbHAdRAbRAdSAbHAdTAbHAcTAbHAeUaUcVAcYAjSIGN ANUSVARA
iNUKTAfVIRAMAlVOWEL SIGN AAbIbUcEbIaIcObUaUwIMONOeP SIGNgSSa MARKfING CAT FACE WITH CLOSED EYESzaF
ACEa WITH CLOSED EYESlSMILING EYESzdTEcWIFRUITiNEELING PERSONnOTdOALAdREAN STANDARD SYMBOLvRONOSg
L B BAR SYMBOLnAB COATfELdCROSSE STICK AND BALLvDDERdY BEETLEjNGUAGE TAGkO CANCELLATION MARKrDIGI
T EIGHTfFIVEdOUReNINEeONEdSEVENeIXdTHREEeWOdZEROkELLIPSISiHO MOcNOfKO LAfLETTER BOcCOcDOcFO FAYcON
dSUNGeTAMgHO SUNGeTAMgKHMU GOcNYOgO SUNGeTAMgOcLOa LINGdOOThMOcNGOcObYOdObPALI BHAdCHAdDDAbHAdHAdG
HAdJHAdLLAdNNAcYAdTTAbHAiHO SUNGeTAMgOcROcSANSKRIT SHAcSAlO SUNGeTAMgTHO SUNGeTAMgOcWOcYOjNIGGAHIT
AjSEMIVOWEL SIGN LOcNYOrIGN PALI VIRAMAqTONE MAI CATAWAgEKcTHOcIlVOWEL SIGN AaAbIbMbYcEaIcIaIcMA
I KANcONhObUaUcYaYpRGE BLUE CIRCLEgDIAMONDhSQUAREkROWN CIRCLEgSQUAREmCIRCLEgDOWN TACKjGREEN CIRCLE
gSQUAREmLEFT TRIANGLE OPERATORwONE DOT OVER TWO DOTS PUNCTUATIONzeRING OVER TWO RINGS PUNCTUATIONz
jRANGE CIRCLEgDIAMONDhSQUAREnPURPLE CIRCLEgSQUAREnRED CIRCLEgSQUAREkTRIPLE VERTICAL BAR OPERATORzc
WO DOTS OVER ONE DOT PUNCTUATIONzeRINGS OVER ONE RING PUNCTUATIONzkUP TACKhYELLOW CIRCLEgSQUAREo
R THANa OR EQUAL TOuI SIGNhST QUARTER MOONa SYMBOLgWITH FACEzaTIN CAPITAL LETTER Aa WITH ACUTEfBRE
VEa AND ACUTEfDOT BELOWjGRAVEfHOOK ABOVEkTILDEpCARONeIRCUMFLEXa AND ACUTEfDOT BELOWjGRAVEfHOOK ABO
VEkTILDEuDIAERESISa AND MACRONtOT ABOVEa AND MACRONqBELOWhUBLE GRAVEmGRAVEfHOOK ABOVEkINVERTED BRE
VEoMACRONgOGONEKgRING ABOVEa AND ACUTEpBELOWkSTROKEgTILDElAbEa WITH ACUTEfMACRONnFRICAN DiLPHAeNGL
ICANA WkObUbVa WITH HORIZONTAL BARvYcBa WITH DOT ABOVEfBELOWjFLOURISHiHOOKeLINE BELOWkSTROKEgTOPBA
RmETAdROKEN LiCa WITH ACUTEfBARdCARONeEDILLAa AND ACUTEqIRCUMFLEXkDOT ABOVEjHOOKePALATAL HOOKmSTRO
KEmHIcLOSED INSULAR GpONcUATRILLOa WITH COMMAuDa WITH CARONeEDILLAgIRCUMFLEX BELOWqDOT ABOVEfBELOW
jHOOKeLINE BELOWkSHORT STROKE OVERLAYtMALL LETTER Za WITH CARONyTROKEgTOPBARmZa WITH CARONnEa WIT
H ACUTEfBREVEfCARONeEDILLAa AND BREVEqIRCUMFLEXa AND ACUTEfDOT BELOWjGRAVEfHOOK ABOVEkTILDEjBELOWq
DIAERESISiOT ABOVEfBELOWhUBLE GRAVEmGRAVEfHOOK ABOVEkINVERTED BREVEoMACRONa AND ACUTEfGRAVEqOGONEK
gSTROKEgTILDEa BELOWrGYPTOLOGICAL AINcLEFrNGcSHcTaHcZHa REVERSEDiWITH CARONoFa WITH DOT ABOVEjHOOK
eSTROKEnGa WITH ACUTEfBREVEfCARONeEDILLAgIRCUMFLEXkDOT ABOVEjHOOKeMACRONgOBLIQUE STROKEoSTROKEmAMM
AeHAcLOTTAL AbIbSTOPeUjHa WITH BREVE BELOWlCARONeEDILLAgIRCUMFLEXkDESCENDERiIAERESISiOT ABOVEfBELO
WjHOOKeSTROKEmALF HfENGdWAIRfIa WITH ACUTEfBREVEfCARONeIRCUMFLEXkDIAERESISa AND ACUTEsOT ABOVEfBEL
OWhUBLE GRAVEmGRAVEfHOOK ABOVEkINVERTED BREVEoMACRONgOGONEKgSTROKEgTILDEa BELOWrNSULAR DbFbGbRbSbT
iOTAdScJa WITH CIRCUMFLEXjROSSED-TAILmSTROKEnKa WITH ACUTEfCARONeEDILLAhDESCENDERiIAGONAL STROKEoO
T BELOWjHOOKeLINE BELOWkOBLIQUE STROKEoSTROKEa AND DIAGONAL STROKEziLa WITH ACUTEfBARcELTeCARONeED
ILLAgIRCUMFLEX BELOWqDOT BELOWa AND MACRONsUBLE BARkHIGH STROKElLINE BELOWkMIDDLE DOTdTILDEmSMAL
L LETTER JnTROKEmJcMa WITH ACUTEfDOT ABOVEfBELOWjHOOKkIDDLE SCOTS Si-WELSH LLcVoNa WITH ACUTEfCARO
NeEDILLAgIRCUMFLEX BELOWqDESCENDERiOT ABOVEfBELOWjGRAVEfLEFT HOOKiINE BELOWjONG RIGHT LEGoOBLIQU
E STROKEoSMALL LETTER JoTILDElJcOa WITH ACUTEfBREVEfCARONeIRCUMFLEXa AND ACUTEfDOT BELOWjGRAVEfHOO
K ABOVEkTILDEuDIAERESISa AND MACRONtOT ABOVEa AND MACRONqBELOWhUBLE ACUTEfGRAVEmGRAVEfHOOK ABOVEiR
Na AND ACUTEfDOT BELOWjGRAVEfHOOK ABOVEkTILDEoINVERTED BREVEoLONG STROKE OVERLAYrOPeMACRONa AND AC
UTEfGRAVEpIDDLE TILDEmOGONEKa AND MACRONrSTROKEa AND ACUTEqTILDEa AND ACUTEfDIAERESISjMACRONwIbL
D POLISH OlMEGAeObPEN EbOfUcPa WITH ACUTEfDOT ABOVEjFLOURISHiHOOKeSQUIRREL TAILmTROKEa THROUGH DES
CENDERzgQa WITH DIAGONAL STROKEpSTROKE THROUGH DESCENDERzgRa ROTUNDAhWITH ACUTEfCARONeEDILLAhDOT A
BOVEfBELOWa AND MACRONsUBLE GRAVEmINVERTED BREVEoLINE BELOWkOBLIQUE STROKEoSTROKEgTAILkEVERSED C W
ITH DOTkEbHALF HgOPEN EoUM ROTUNDAlSa WITH ACUTEa AND DOT ABOVEtCARONa AND DOT ABOVEsEDILLAgIRCUMF
LEXjOMMA BELOWlDOT ABOVEfBELOWa AND DOT ABOVExHOOKeOBLIQUE STROKEoSHORT STROKE OVERLAYtWASH TAILqA
LTILLOhCHWAdRIPT GhHARP SgIGMOID SiMALL CAPITAL IjQ WITH HOOK TAILwTa WITH CARONeEDILLAgIRCUMFLE
X BELOWpOMMA BELOWlDIAGONAL STROKEoOT ABOVEfBELOWjHOOKeLINE BELOWkRETROFLEX HOOKoSTROKEmHORNa WIT
H STROKEa THROUGH DESCENDERzjONE FIVEeSIXdTWOhRESILLOhURNED AaLPHAfHbINSULAR GjKbLbMbTbVhZcUa BARd
WITH ACUTEfBREVEfCARONeIRCUMFLEXa BELOWqDIAERESISa AND ACUTEfCARONfGRAVEfMACRONkBELOWoOT BELOWhUBL
E ACUTEfGRAVEmGRAVEfHOOK ABOVEiRNa AND ACUTEfDOT BELOWjGRAVEfHOOK ABOVEkTILDEoINVERTED BREVEoMACRO
Na AND DIAERESISuOGONEKgRING ABOVEkSTROKEgTILDEa AND ACUTEjBELOWrPSILONhVa WITH DIAGONAL STROKEoO
T BELOWjHOOKeTILDElENDdISIGOTHIC ZlOLAPUK AEcOEcUEjYcWa WITH ACUTEfCIRCUMFLEXkDIAERESISiOT ABOVEfB
ELOWjGRAVEfHOOKkYNNeXa WITH DIAERESISiOT ABOVEqYa WITH ACUTEfCIRCUMFLEXkDIAERESISiOT ABOVEfBELOWjG
RAVEfHOOKa ABOVEkLOOPeMACRONgSTROKEgTILDElOGHeZa WITH ACUTEfCARONeIRCUMFLEXkDESCENDERiOT ABOVEfBEL
OWjHOOKeLINE BELOWkPALATAL HOOKmSTROKEfWASH TAILxIGATURE IJcOEsROSSfEPIGRAPHIC LETTER ARCHAIC Mj
I LONGAgNVERTED MkREVERSED FbPkSIDEWAYS IzdLETTER AINcLVEOLAR CLICKoBIDENTAL PERCUSSIVErLABIAL CLI
CKfPERCUSSIVEtDENTAL CLICKmGLOTTAL STOPa WITH STROKEyINVERTED GLOTTAL STOPa WITH CURLeSTROKEziLATE
RAL CLICKnPHARYNGEAL VOICED FRICATIVEzcRETROFLEX CLICKa WITH RETROFLEX HOOKziVERSED ESH LOOPiGLOTT
AL STOP WITH STROKEziSINOLOGICAL DOToMALL CAPITAL AaEcBaARRED BiCbDbEaTHcZHdFbGa WITH HOOKlHbIaNVE
RTED RkJbKbLa WITH BELTeSTROKEnMbNbOaEbPEN OfUcPbQbRa WITH RIGHT LEGpEVERSED NbRjUMdSbTaURNED EbGb
KbMbRiUbVbWbYbZoTRETCHED Ca WITH CURLvTWO WITH STROKEpVOICED LARYNGEAL SPIRANTyWYNNeYRjSMALL CAPIT
AL LETTER I WITH STROKEnU WITH STROKEzdLETTER Aa REVERSED-SCHWAoWITH ACUTEfBREVEa AND ACUTEfDOT BE
LOWjGRAVEfHOOK ABOVEkTILDEpCARONeIRCUMFLEXa AND ACUTEfDOT BELOWjGRAVEfHOOK ABOVEkTILDEuDIAERESIS
a AND MACRONtOT ABOVEa AND MACRONqBELOWhUBLE GRAVEmGRAVEfHOOK ABOVEkINVERTED BREVEoMACRONgOGONEKgR
ETROFLEX HOOKnIGHT HALF RINGnNG ABOVEa AND ACUTEpBELOWkSTROKEgTILDElAbEa WITH ACUTEfMACRONnLPHAa W
ITH RETROFLEX HOOKyNGLICANA WkObUbVa WITH HORIZONTAL BARvYcBa WITH DOT ABOVEfBELOWjFLOURISHiHOOKeL
INE BELOWkMIDDLE TILDEmPALATAL HOOKmSTROKEgTOPBARmARRED ALPHAfEbOgSELINE ESHlETAdLACKLETTER EbOa W
ITH STROKEyOTTOM HALF OmROKEN LiCa WITH ACUTEfBARdCARONeEDILLAa AND ACUTEqIRCUMFLEXjURLeDOT ABOVEj
HOOKePALATAL HOOKmRETROFLEX HOOKoSTROKEmHIa WITH LOW LEFT SERIFkRIGHT RINGwLOSED INSULAR GjOMEGAeP
EN EgREVERSED OPEN EvONcUATRILLOa WITH COMMAuDa WITH CARONeEDILLAgIRCUMFLEX BELOWpURLeDOT ABOVEfBE
LOWjHOOKa AND TAILnLINE BELOWkMIDDLE TILDEmPALATAL HOOKmSHORT STROKE OVERLAYtTROKEgTAILdOPBARmB DI
GRAPHjELTAdZH DIGRAPHa WITH PALATAL HOOKmRETROFLEX HOOKzgOTLESS IbJa WITH STROKEa AND HOOKzdUBLE R
a WITH CROSSED-TAILtTHORNfWYNNkUMcZa DIGRAPHa WITH CURLeRETROFLEX HOOKzcWITH CARONnEa WITH ACUTEfB
REVEfCARONeEDILLAa AND BREVEqIRCUMFLEXa AND ACUTEfDOT BELOWjGRAVEfHOOK ABOVEkTILDEjBELOWqDIAERESIS
iOT ABOVEfBELOWhUBLE GRAVEmFLOURISHiGRAVEfHOOK ABOVEkINVERTED BREVEoMACRONa AND ACUTEfGRAVEqNOTCHf
OGONEKgRETROFLEX HOOKoSTROKEgTILDEa BELOWrGYPTOLOGICAL AINcLEFrNGa WITH CROSSED-TAILmPALATAL HOOKu
SHa WITH CURLeDOUBLE BARa AND CURLtPALATAL HOOKmRETROFLEX HOOKwTaHcZHa REVERSEDiWITH CARONeURLePAL
ATAL HOOKmRETROFLEX HOOKoTAILnFa WITH DOT ABOVEjHOOKeMIDDLE TILDEmPALATAL HOOKmSTROKEmENG DIGRAPH
a WITH TRILLxGa WITH ACUTEfBREVEfCARONeEDILLAgIRCUMFLEXkDOT ABOVEjHOOKeMACRONgOBLIQUE STROKEoPALAT
AL HOOKmSTROKEmAMMAeHAcLOTTAL AbIbSTOPeUjHa WITH BREVE BELOWlCARONeEDILLAgIRCUMFLEXkDESCENDERiIAER
ESISiOT ABOVEfBELOWjHOOKeLINE BELOWkPALATAL HOOKmSTROKEmALF HfENGa WITH HOOKnVcIa WITH ACUTEfBREVE
fCARONeIRCUMFLEXkDIAERESISa AND ACUTEsOT BELOWhUBLE GRAVEmGRAVEfHOOK ABOVEkINVERTED BREVEoMACRONgO
GONEKgRETROFLEX HOOKoSTROKEa AND RETROFLEX HOOKzaTILDEa BELOWrNSULAR DbFbGbRbSbThVERTED ALPHAfOEkO
TAa WITH STROKEnIFIED EjScJa WITH CARONeIRCUMFLEXjROSSED-TAILmSTROKEnKa WITH ACUTEfCARONeEDILLAhDE
SCENDERiIAGONAL STROKEoOT BELOWjHOOKeLINE BELOWkOBLIQUE STROKEoPALATAL HOOKmSTROKEa AND DIAGONAL S
TROKEzhRAdLa WITH ACUTEfBARcELTa AND PALATAL HOOKvCARONeEDILLAgIRCUMFLEX BELOWpURLeDOT BELOWa AN
D MACRONsUBLE BARdMIDDLE TILDEtFISHHOOKiHIGH STROKElINVERTED LAZY SpLINE BELOWkMIDDLE DOTdRINGeTIL
DEmPALATAL HOOKmRETROFLEX HOOKa AND BELTxSTROKEmAMBDA WITH STROKErENIS FfZHa WITH RETROFLEX HOOKxJ
bONG Sa WITH DIAGONAL STROKEoOT ABOVEjHIGH STROKEwS DIGRAPHjUMcZ DIGRAPHkMa WITH ACUTEfCROSSED-TAI
LmDOT ABOVEfBELOWjHOOKeMIDDLE TILDEmPALATAL HOOKsIDDLE SCOTS Si-WELSH LLcVnUMdNa PRECEDED BY APOST
ROPHEwWITH ACUTEfCARONeEDILLAgIRCUMFLEX BELOWpROSSED-TAILlURLeDESCENDERiOT ABOVEfBELOWjGRAVEfLEF
T HOOKiINE BELOWjONG RIGHT LEGoMIDDLE TILDEmOBLIQUE STROKEoPALATAL HOOKmRETROFLEX HOOKoTILDElJbUMd
Oa WITH ACUTEfBREVEfCARONeIRCUMFLEXa AND ACUTEfDOT BELOWjGRAVEfHOOK ABOVEkTILDEuDIAERESISa AND MAC
RONtOT ABOVEa AND MACRONqBELOWhUBLE ACUTEfGRAVEmGRAVEfHOOK ABOVEiRNa AND ACUTEfDOT BELOWjGRAVEfHOO
K ABOVEkTILDEoINVERTED BREVEoLONG STROKE OVERLAYrOPcW RING INSIDEpMACRONa AND ACUTEfGRAVEqOGONEK
a AND MACRONrRETROFLEX HOOKoSTROKEa AND ACUTEqTILDEa AND ACUTEfDIAERESISjMACRONwIbLD POLISH OlMEGA
eObPEN Ea WITH RETROFLEX HOOKvOa WITH RETROFLEX HOOKoSTROKEmEgUcPa WITH ACUTEfDOT ABOVEjFLOURISHiH
OOKeMIDDLE TILDEmPALATAL HOOKmSQUIRREL TAILmTROKEa THROUGH DESCENDERzfHIdQa WITH DIAGONAL STROKEpH
OOKa TAILjSTROKE THROUGH DESCENDERzfP DIGRAPHkRa ROTUNDAhWITH ACUTEfCARONeEDILLAgROSSED-TAILmDOT A
BOVEfBELOWa AND MACRONsUBLE GRAVEmFISHHOOKa AND MIDDLE TILDEmPALATAL HOOKzaINVERTED BREVEoLINE BEL
OWjONG LEGiMIDDLE TILDEmOBLIQUE STROKEoPALATAL HOOKmSTROKEgTAILfOUT HANDLEpAMS HORNiEVERSED Ca WIT
H DOTkEaNGdHALF HgKbOPEN Ea WITH HOOKeRETROFLEX HOOKzbR WITH FISHHOOKpSCRIPT GqUMa ROTUNDAlSa WIT
H ACUTEa AND DOT ABOVEtCARONa AND DOT ABOVEsEDILLAgIRCUMFLEXjOMMA BELOWkURLeDOT ABOVEfBELOWa AND D
OT ABOVExHOOKeMIDDLE TILDEmOBLIQUE STROKEoPALATAL HOOKmSHORT STROKE OVERLAYtWASH TAILqAKHA YAThLTI
LLOhCHWAa WITH HOOKeRETROFLEX HOOKxRIPT Ga WITH CROSSED-TAILtRa WITH RINGrHARP SgIDEWAYS DIAERESIZ
ED UnOa WITH STROKEmPEN OgTURNED MiUiGMOID SiQUAT REVERSED ESHrTIRRUP RjTa WITH CARONeEDILLAgIRCUM
FLEX BELOWpOMMA BELOWkURLeDIAERESISgGONAL STROKEoOT ABOVEfBELOWjHOOKa AND RETROFLEX HOOKxLINE BELO
WkMIDDLE TILDEmPALATAL HOOKmRETROFLEX HOOKoSTROKEmAILLESS PHIlC DIGRAPH WITH CURLtESH DIGRAPHa WIT
H PALATAL HOOKmRETROFLEX HOOKzgH WITH STRIKETHROUGHtORNa WITH STROKEa THROUGH DESCENDERzjONE FIVEe
SIXdTWOgP HALF OjRESILLOhS DIGRAPHa WITH RETROFLEX HOOKzeUMbRNED AaEbLPHAfDELTAfEbGbHa WITH FISHHO
OKa AND TAILyIaNSULAR GjKbLbMa WITH LONG LEGpO OPEN-Oa WITH STROKEtEa WITH HORIZONTAL STROKErSTROK
EnPEN EgRa WITH HOOKeLONG LEGa AND RETROFLEX HOOKzcMIDDLE TILDEmPALATAL HOOKmTAILlTa WITH CURLlUIc
VbWbYa WITH BELTrZcUa BARa WITH SHORT RIGHT LEGyWITH ACUTEfBREVEfCARONeIRCUMFLEXa BELOWqDIAERESIS
a AND ACUTEfCARONfGRAVEfMACRONkBELOWoOT BELOWhUBLE ACUTEfGRAVEmGRAVEfHOOK ABOVEiRNa AND ACUTEfDO
T BELOWjGRAVEfHOOK ABOVEkTILDEoINVERTED BREVEoLEFT HOOKjMACRONa AND DIAERESISuOGONEKgRETROFLEX HOO
KnING ABOVEkSHORT RIGHT LEGoTROKEgTILDEa AND ACUTEjBELOWrEbIbMbObPSILONa WITH STROKEtVa WITH CURLe
DIAGONAL STROKEoOT BELOWjHOOKePALATAL HOOKmRIGHT HOOKkTILDElENDdISIGOTHIC ZlOLAPUK AEcOEcUEjYcWa W
ITH ACUTEfCIRCUMFLEXkDIAERESISiOT ABOVEfBELOWjGRAVEfHOOKeRING ABOVErXa WITH DIAERESISiOT ABOVEjLON
G LEFT LEGa AND LOW RIGHT RINGsWITH SERIFwW RIGHT RINGoPALATAL HOOKtYa WITH ACUTEfCIRCUMFLEXkDIAER
ESISiOT ABOVEfBELOWjGRAVEfHOOKa ABOVEkLOOPeMACRONgRING ABOVEkSHORT RIGHT LEGoTROKEgTILDElOGHeZa WI
TH ACUTEfCARONeIRCUMFLEXjURLeDESCENDERiOT ABOVEfBELOWjHOOKeLINE BELOWkMIDDLE TILDEmPALATAL HOOKmRE
TROFLEX HOOKoSTROKEfWASH TAILxIGATURE FFaIbLcIbLcIJcLONG S TiOEcSTqUBSCRIPT SMALL LETTER AbEbHbIbJ
bKbLbMbNbObPbRbSaCHWAfTbUbVbXzeEAF FLUTTERING IN WINDtY GREENjDGEReFT AND LOWER AND RIGHT TRIANGUL
AR THREE QUARTERS BLOCKzqONE EIGHTH BLOCKwRIGHT DOUBLE TURNSTILEqTACKdRIANGULAR HALF BLOCKzcUPPE
R AND RIGHT TRIANGULAR THREE QUARTERS BLOCKzqONE EIGHTH BLOCKyGER BUBBLEjLE BRACKETa WITH DOTvRC L
ESS-THAN BRACKETtROW WITH CIRCLED PLUSmSMALL CIRCLExBARB DOWN RIGHT BARB DOWN HARPOONmUP HARPOONzb
UP RIGHT BARB DOWN HARPOONmUP HARPOONzdLACK LENTICULAR BRACKETsTORTOISE SHELL BRACKETzdCEILINGgLOS
ED ENTRYlORNER BRACKETnURLY BRACKETa LOWER HOOKkMIDDLE PIECEmUPPER HOOKyDOTTED SUBSTITUTION BRACKE
TzaUBLE ANGLE BRACKETnPARENTHESISlQUOTATION MARKoWIGGLY FENCEtFISH TAILhVE EIGHTHS BLOCKrLOORfHAL
F BLACK CIRCLEgSTARiOCKfCIRCLEa WITH DOTdFOUR DOTSjTHREE DOTSjWO DOTSuFOLDERgINVERSE MEDIUM SHAD
E AND RIGHT HALF BLOCKzqMEDIUM SHADEmRUNNING MANoND TELEPHONE RECEIVERxLOW PARAPHRASE BRACKETvUGGA
GEhMULTIMAPiNORMAL FACTOR SEMIDIRECT PRODUCTzhONE EIGHTH BLOCKmQUARTER BLOCKqUTER JOINkPARENTHESIS
a EXTENSIONjLOWER HOOKkUPPER HOOKwRAISED OMISSION BRACKETwIGHT ARROWa THROUGH SMALL CIRCLEuWITH DO
UBLE VERTICAL STROKEwSTROKEgVERTICAL STROKEzbBLACK ARROWlDOUBLE ARROWa WITH STROKEgVERTICAL STROKE
ziOPEN-HEADED ARROWrSANS-SERIF ARROWqTRIANGLE-HEADED ARROWvWAVE ARROWjHITE ARROWrS-SHAPED BAG DELI
MITERvEMIDIRECT PRODUCTqVEN EIGHTHS BLOCKsIDEWAYS U BRACKETqNGLE QUOTATION MARKuPEECH BUBBLEmQUAR
E BRACKETa EXTENSIONjLOWER CORNERmUPPER CORNERmWITH DOUBLE STROKEnQUILLfSTROKEgTICK IN BOTTOM CORN
ERnTOP CORNERsUNDERBARzcUBSTITUTION BRACKETuTACKdHIRD WHITE RIGHT POINTING INDEXzfOUGHT BUBBLEmRE
E EIGHTHS BLOCKnQUARTERS BLOCKtORTOISE SHELL BRACKETvRANSPOSITION BRACKETtIANGLE BESIDE VERTICAL B
ARwULAR ONE QUARTER BLOCKzdVERTICAL BAR WITH QUILLnOX LINErWHITE CORNER BRACKETnURLY BRACKETnLENTI
CULAR BRACKETsPARENTHESISlSQUARE BRACKEToTORTOISE SHELL BRACKETzcIGGLY FENCElRITING HANDn-FACING A
RMENIAN ETERNITY SIGNwFISTeSVASTI SIGNa WITH DOTSzdHANDED INTERLACED PENTAGRAMzcPOINTING ANGLE BRA
CKETnCURVED ANGLE BRACKETuDOUBLE ANGLE QUOTATION MARKzcMAGNIFYING GLASSzaSHADED WHITE RIGHTWARDS A
RROWzdIDE ARC ANTICLOCKWISE ARROWzdTO-RIGHT EMBEDDINGjISOLATEhMARKeOVERRIDEsWARDS ARROWa ABOVE ALM
OST EQUAL TOpREVERSE ALMOST EQUAL TOpTILDE OPERATORwSHORT RIGHTWARDS ARROWwTILDE OPERATORtND UPPE
R AND LOWER ONE EIGHTH BLOCKzlFROM BARa TO BLACK DIAMONDzaOVER RIGHTWARDS ARROWvTHROUGH LESS-THANj
SUBSETgXiO BARa OVER RIGHTWARDS ARROW TO BARzgLACK DIAMONDqWITH DOTTED STEMjUBLE VERTICAL STROKEwE
QUILATERAL ARROWHEADvHOOKeLARGE TRIANGLE ARROWHEADxOOPeMEDIUM TRIANGLE ARROWHEADzaNOTCHED TAILmPLU
S BELOWkSMALL EQUILATERAL ARROWHEADvTRIANGLE ARROWHEADxTROKEgTAILa WITH DOUBLE VERTICAL STROKEwVER
TICAL STROKEyIP DOWNWARDSjUPWARDSlVERTICAL STROKEv-TAILkBACK-TILTED SHADOWED WHITE ARROWzgLACK ARR
OWfCIRCLED WHITE ARROWyOTTOM-SHADED WHITE ARROWzaCOMPRESSED ARROWqDASHED ARROWlOUBLE ARROWa FROM B
ARiWITH STROKEgVERTICAL STROKEv-TAILkDASH ARROWrFINGER-POST ARROWqRONT-TILTED SHADOWED WHITE ARROW
ziHANDcRPOON OVER RIGHTWARDS HARPOONxWITH BARB DOWN ABOVE RIGHTWARDS HARPOON WITH BARB DOWNzoBELO
W LONG DASHpFROM BARiTO BARhWARDSjUP ABOVE LEFTWARDS HARPOON WITH BARB DOWNzgONG DASHjRIGHTWARDS H
ARPOON WITH BARB UPzmFROM BARiTO BARhWARDSyEAVY ARROWfCOMPRESSED ARROWwLEFT-SHADED WHITE ARROWxOPE
N-HEADED ARROWrPAIRED ARROWSnQUADRUPLE ARROWpRIGHT-SHADED WHITE ARROWxOCKETgSANS-SERIF ARROWpQUARE
D ARROWkIGGLE ARROWoTOP SHADED WHITE ARROWvRIANGLE ARROWHEADk-HEADED ARROWa OVER RIGHTWARDS TRIANG
LE-HEADED ARROWzmTO BARgWITH BOLD SHAFTkDOUBLE HORIZONTAL STROKErVERTICAL STROKEwHEAVY SHAFTlLON
G TIP DOWNWARDSjUPWARDSqMEDIUM SHAFTmNARROW SHAFTmVERY HEAVY SHAFTzcDASHED ARROWmPAIRED ARROWSzbPL
E ARROWfDASH ARROWqWO HEADED ARROWn-HEADED ARROW FROM BARiWITH DOUBLE VERTICAL STROKEwTAILa WITH D
OUBLE VERTICAL STROKEwVERTICAL STROKEyRIANGLE ARROWHEADStVERTICAL STROKEzbTRIPLE DASH ARROWzdWAV
E ARROWjHITE ARROWa WITHIN TRIANGLE ARROWHEADzuGbMONdOaPARDfPCHA CONSONANT SIGN KaANGeLbMbNaYIN-DO
hPbRbTqDIGIT EIGHTfFIVEdOUReNINEeONEdSEVENeIXdTHREEeWOdZEROkLETTER AbBAbLAdCAbHAdDAbDAcZAdFAbLAdGA
bLAdHAbLAdJAcKAbHAcLAdLAcMAbLAdNAbGAcYAdPAbHAcLAdRAcSAbHAdTAbHAcSAbHAdTAbHAeVAcWAcYAjPUNCTUATION C
ER-WAgNYET THYOOM TA-ROLsTA-ROLfSHOOKa CER-WAzaSIGN NUKTAfRANhUBJOINED LETTER RAcYAtVOWEL SIGN AAc
EbIbOaOcUaUsSS-THAN ABOVE DOUBLE-LINE EQUAL ABOVE GREATER-THANzlGREATER-THAN ABOVE DOUBLE-LINE EQU
ALzlLEFTWARDS ARROWpSIMILAR ABOVE GREATER-THANsOR EQUALpLANTED EQUAL ABOVE GREATER-THAN ABOVE SLAN
TED EQUALzzhND NOT APPROXIMATEpSINGLE-LINE NOT EQUAL TOzdBUT NOT EQUAL TOfIVALENT TOvCLOSED BY CUR
VEa ABOVE SLANTED EQUALzkEQUAL TO OR GREATER-THANyOR APPROXIMATElEQUAL TOfIVALENT TOnGREATER-THANm
SLANTED EQUAL TOa WITH DOT ABOVEa RIGHTlINSIDEzjVER EQUAL TOnSIGNeWITH CIRCLE INSIDEnDOTdQUESTIO
N MARK ABOVEzhVEL SLIDERlFbIBRAdGATURE OPEN ET ORNAMENTwHT CHECK MARKkEIGHT SPOKED ASTERISKvFIVE P
OINTED BLACK STARsSPOKED ASTERISKtOUR POINTED BLACK CUSPeSTARxGREEK CROSSlLEFT TORTOISE SHELL BRAC
KET ORNAMENTzlRAILdIGHT TORTOISE SHELL BRACKET ORNAMENTzmSALTIREgHADEeIX SPOKED ASTERISKtTHREE POI
NTED BLACK STARxWELVE POINTED BLACK STARzaVERTICAL BARmWHITE SQUAREnNINGa MOODa BUBBLEtMBU DIGIT E
IGHTfFIVEdOUReNINEeONEdSEVENeIXdTHREEeWOdZEROkEXCLAMATION MARKqLETTER BAbHAdCAbHAdDAbHAdGAbHAcYANe
HAcJAbHAdKAbHAdLAcMAcNAbGAdPAbHAdRAcSAbHAcSAdTAbHAcRAdWAcYAaNkQUESTION MARKnSIGN KEMPHRENGjLOOdMUK
PHRENGjSA-IiMALL LETTER ANUSVARAiKAcLAcMAcNAbGAdPAcRAcTAoUBJOINED LETTER RAcWAcYAtVOWEL SIGN AaIbU
cEaEcIbOaOcUh-CARRIER LETTERxITED LIABILITY SIGNuNE FEEDeINTEGRATION NOT INCLUDING THE POLEwWITH R
ECTANGULAR PATH AROUND POLEzdSEMICIRCULAR PATH AROUND POLEzvSEPARATORjTABULATIONa SETpAR A SIGN A0
28Be100-102g20Bd31Ce301b2b3b4b5b6b7b8b9AbBbCd10b1b2b3AbBbCc4b5b6b7b8b9c20b1b2b3b4b5b6b7b8b9c30b1b2
b3b4b5b6b7b8b9c40b1b2b3b4b5b6b7b8b9c50b1b2b3b4b5b6b7b8b9c60b1b2b3b4b5b6b7b8b9c70b1d400-VASf1-VASf2
-VASf3-VASf4-VASf5-VASf6-VASf7-VASf8-VASf9-VASg10-VASf1-VASf2-VASf3-VASf4-VASf5-VASf6-VASf7-VASf8-
VASh501b2b3b4b5b6b8b9c10b1b2b3b5b6c20b1b3b4b5b6b7b8b9c30b1b2b4b5b6b7b8b9c40b1b2b5b7b8b9c50b1b2b3b4
b5b6b7b9c63b4b5b6b8b9c70b1b2b3b4b5b6b7b8b9c80b1b2b3b4b5b6b7b8b9c91b2b4b5b6b8d600b1b2b3b4b6b8b9c10b
1b2b3b4b5b6b7b8b9c20b1b2b3b4b6b7b8b9c34b7b8c40b2b3b4b5b6b8b9c51b2b3b4b5b6b7b8b9c60b1b2b3b4d701 Ad
2 Bd3 Dd4 Ed5 Fd6 Hd7 Jd8 Kd9 Lc-2 L2e3 L3e4 L4e6 L6h10 Wd1 Xd2 Yd3 OMEGAh4 ABBf5 BBe7 DDf26 EYYYh
32 JEg800b1b2b3b4b5b6b7dB001b2b3b4b5b6b7b8b9c10b1b3b6b7c20b1aFbMc2aFbMc3aMc4b6b7b8b9c30b1b4b7b8b9c
40b1b4b5b6b7b8b9c50b1b3b4b5b6b7b8b9c60b1b5b6b7b9c70b3b4b6b7b8b9c80b1b2b5b6b7d118c20b2b3c31AbBd64c7
1c80b8c91mB IDEOGRAM B100 MANf2 WOMANh4 DEERg5 EQUIDgF MAREgM STALLIONl6F EWEfM RAMg7F SHE-GOATk
M HE-GOATk8F SOWfM BOARh9F COWfM BULLi20 WHEATh1 BARLEYi2 OLIVEh3 SPICEh5 CYPERUSk30 OILf1 WINEg2c
40 BRONZEi1 GOLDg2b5 WOOLg6c50b1 HORNg2b3b4b7b8b9 CLOTHi60b1b2 GARMENTj3 ARMOURi4b5b6b7b8b9c70b1b2
b3 MONTHh4b6 TREEg7b8b9c80b1b2b3b4b5b9c90b1 HELMETk220 FOOTSTOOLl5 BATHTUBk30 SPEARh1 ARROWh2b3 SW
ORDh4b6c40 WHEELED CHARIOTr1 CHARIOTj2 CHARIOT FRAMEp3 WHEELh5b6b8b9c51b2b3b4 DARTg5b6b7b8b9eVESSE
L B155d200b1b2b3b4b5b6b7b8b9c10b1b2b3b4b5b6b7b8b9c21b2b6b7b8b9c50d305uMONOGRAM B127 KAPOg8 KANAKOj
33 AREPAh5 MERIh56 TURO2j247 DIPTEtSYLLABLE B001 DAe2 ROe3 PAe4 TEe5 TOe6 NAe7 DIe8 Ad9 SEf10 Ud
1 POe2 SOe3 MEe4 DOe5 MOe6 QAe7 ZAf20 ZOe1 QIe3 MUe4 NEe5 A2e6 RUe7 REe8 Id9 PU2g30 NIe1 SAe2 QOe
3 RA3f6 JOe7 TIe8 Ed9 PIf40 WIe1 SIe2 WOe3 A3e4 KEe5 DEe6 JEe8 NWAg50 PUe1 DUe2 NOe3 RIe4 WAe5 NUe
7 JAe8 SUe9 TAf60 RAe1 Od2 PTEf5 JUe6 TA2f7 KIe8 RO2f9 TUf70 KOe1 DWEf2 PEe3 MIe4 ZEe5 WEe6 RA2f
7 KAe8 QEf80 MAe1 KUe5 AUe7 TWEg90 DWOf1 TWOpMBOL B018b9c22c34c47b9c56c63b4c79c82b3b6b9rK SYMBOLhE
D PAPERCLIPSpON FACEhPSaTICKgRA SIGNhSU LETTER AaEcBAcCAbHAdDAbZAdEaUcFAcGAbHAdHAbHAdIbJAcKAbHAdLA
cMAcNAbGAdOaEcPAbHAdSAbHAdTAbHAcONE MYA BOcCYAdJEUdNAcTIgNA POjSAbHAeUaEbHcWAcXAcYAbHAdZAbHAkPUNCT
UATION COMMAfFULL STOPyVRE TOURNOIS SIGNrZARDfLAMAeOBSTERfCKa WITH INK PENnING-SHIFT ONEdZEROqGICA
L ANDa WITH DOT ABOVEhUBLE OVERBARhUNDERBARpHORIZONTAL DASHpMIDDLE STEMlUNDERBARrORa OVERLAPPING L
OGICAL ANDxWITH DOT ABOVEhUBLE OVERBARhUNDERBARpHORIZONTAL DASHpMIDDLE STEMzaLLIPOPgNG DASH FROM L
EFT MEMBER OF DOUBLE VERTICALzoIVISIONhRUMeLEFT RIGHT ARROWfDOUBLE ARROWsTACKfWARDS ARROWa FROM BA
RoDOUBLE ARROWa FROM BARvSQUIGGLE ARROWyRIGHT TACKfWARDS ARROWa FROM BARoDOUBLE ARROWa FROM BARvSQ
UIGGLE ARROWzdTION BOTTLEkUSdUDLY CRYING FACEqVE HOTELfLETTERjW ASTERISKiBATTERYgRIGHTNESS SYMBOLr
DOUBLE PRIME QUOTATION MARKzcKAVYKAa WITH DOTpLINEfER BLADE SCISSORSoFIVE EIGHTHS BLOCKsHALF BLOCK
fCIRCLEgINVERSE WHITE CIRCLEuMEDIUM SHADErLEFT BALLPOINT PENmLOCK DIAGONAL LOWER MIDDLE LEFT TO LO
WER CENTREgRIGHTzhUPPER CENTRE TO LOWER MIDDLE RIGHTmRIGHTlUPPER MIDDLE RIGHTzdLEFT TO LOWER CENTR
EgMIDDLE RIGHTsUPPER MIDDLE RIGHTzbMIDDLE LEFT TO LOWER CENTREgMIDDLE RIGHTmRIGHTzwCRAYONgFOUNTAI
N PENmPAINTBRUSHjENCILgQUADRANT CIRCULAR ARCvSEMICIRCULAR ANTICLOCKWISE ARROWzhTRIANGLEcULAR MEDIU
M SHADEzdONE EIGHTH BLOCKmQUARTER BLOCKrRIGHT BLOCK DIAGONAL LOWER CENTRE TO LOWER MIDDLE RIGHTsUP
PER MIDDLE RIGHTmRIGHTvLEFT TO LOWER MIDDLE RIGHTsUPPER CENTREgMIDDLE RIGHTzbMIDDLE LEFT TO UPPE
R CENTREgMIDDLE RIGHTmRIGHTzhUPPER MIDDLE LEFT TO UPPER CENTREgRIGHTzwCORNER WITH DOTpDROP-SHADOWE
D WHITE SQUAREzbPENCILgQUADRANT CIRCULAR ARCvSEMICIRCULAR CLOCKWISE ARROWzcHADOWED WHITE CIRCLEgSQ
UAREvTRIANGLEcULAR MEDIUM SHADEzeSEVEN EIGHTHS BLOCKtTHREE EIGHTHS BLOCKnQUARTERS BLOCKtRIANGULA
R ONE QUARTER BLOCKzhZENGEa DIVIDED BY HORIZONTAL RULEziREbIbMbOcUGGAGEfNGSeYCIAN LETTER AaNcBaHcD
bEaNcGbHbIbJbKaKcLbMaMcNaNcPbQbRbSbTaHbTcUbWbXbZnDIAN LETTER AaNcBbCbDbEaNcFbGbIbKbLaYcMbNaNcObQbR
bSaScTaTcUbVbYiTRIANGULAR MARKuING FACEkMACRONeGEbIC WANDhNETeHAJANI ABBREVIATION SIGNrLETTER AbBA
bHAdCAbHAdDAbDAbHAdHAdEbGAbHAdHAcIbJAbHAdKAbHAdLAcMAcNAbNAcYAdObPAbHAdRAbRAdSAcTAbHAcTAbHAeUbVAiIG
ATURE SHRInSECTION MARKlIGN NUKTAqJONG TILE AUTUMNgBACKcMBOOgCHRYSANTHEMUMnEAST WINDiIGHT OF BAMBO
OShCHARACTERSjIRCLESqFIVE OF BAMBOOShCHARACTERSjIRCLESoOUR OF BAMBOOShCHARACTERSjIRCLESpGREEN DRAG
ONmJOKERfNINE OF BAMBOOShCHARACTERSjIRCLESoORTH WINDkONE OF BAMBOOShCHARACTERSjIRCLESnRCHIDgPLUMeR
ED DRAGONkSEVEN OF BAMBOOShCHARACTERSjIRCLESpIX OF BAMBOOShCHARACTERSjIRCLESnOUTH WINDjPRINGfUMMER
gTHREE OF BAMBOOShCHARACTERSjIRCLESpWO OF BAMBOOShCHARACTERSjIRCLESoWEST WINDiHITE DRAGONlINTERrKA
SAR ANGKAfEND OF SECTIONoLETTER AbBAcCAcDAcGAcJAcKAcLAcMAcNAbGAcYAdPAcRAcSAcTAcVAcYAjPASSIMBANGkVO
WEL SIGN EbIbObUsLAYALAM AU LENGTH MARKoDATE MARKiIGIT EIGHTfFIVEdOUReNINEeONEdSEVENeIXdTHREEeWOdZ
EROkFRACTION ONE EIGHTHgFIFTHeORTIETHiHALFeONE-HUNDRED-AND-SIXTIETHyQUARTERhSIXTEENTHjTENTHeWENTIE
THnTHREE EIGHTIETHSkQUARTERSiSIXTEENTHSkTWENTIETHSzaLETTER AaAbIbRCHAIC IIjUcBAbHAdCAbHAbILLU KbLa
LaLdMbNaNcRRcYiDAbDAbHAdHAcOT REPHiEaEcGAbHAdHAcIaIcJAbHAdKAbHAdLAbLAbLAeMAcNAbGAcNAbNAdYAdOaOcPAb
HAdRAbRAdSAbHAcSAdTAbHAcTAbHAcTAeUaUcVAbEDIC ANUSVARAnOCALIC LaLcRaRkYAjNUMBER ONE HUNDREDhTHOUSAN
DmTENkSIGN ANUSVARAhVAGRAHAiCANDRABINDUkIRCULAR VIRAMAoOMBINING ANUSVARA ABOVEyPARAeVERTICAL BAR V
IRAMAsIRAMAeSARGAmVOWEL SIGN AAbIbUcEaEcIaIcOaOcUaUcVOCALIC LaLcRaRzdE AND FEMALE SIGNpSIGNeWITH S
TROKE AND MALE AND FEMALE SIGNySIGNsTESE CROSSlMMOTHfNa AND WOMAN HOLDING HANDSxDANCINGhIN BUSINES
S SUIT LEVITATINGyTUXEDOjWITH GUA PI MAOkTURBANmAT SIGNhDAIC AFFRICATION MARKqGEMINATION MARKpLETT
ER ABbDbGbHbINcKaSAdLbMbNbPbQbRbSaHbZcTaTcZcDUSHENNAiHALQAfINbTcKADdUSHENNAoPUNCTUATIONlVOCALIZATI
ON MARKwGOcICHAEAN ABBREVIATION MARK ABOVEfBELOWxLETTER AAYINeLEPHeYINeBETHdHETHfDALETHfHAMEDHhFEc
GHIMELfIMELfHEaTHeJAYINeHAYINgKAPHdHAPHfLAMEDHgMEMdNUNdPEcQHOPHeOPHeRESHeSADHEdMEKHfHINdSHINfTAWcE
THdHAMEDHhWAWdXAPHdOPHeYODHeZAYINeHAYINnNUMBER FIVEeONEa HUNDREDlTENcWENTYnPUNCTUATION DOTa WITHI
N DOTmUBLE DOT WITHIN DOTvFLEURONhLINE FILLERlSTAReTWO DOTSuSIGN UDpS SHOEgTELPIECE CLOCKoUAL WHEE
LCHAIRpP SYMBOL FOR LIGHTHOUSEwLE LEAFiRCHEN HEAD MARKjLETTER -AcAbBAcCAbHAdDAbZAdGAcHAcJAcKAbHAdL
AcMAcNAbGAcYAdPAbHAdRAcSAbHAdTAbHAcSAbHAeWAcYAcZAbHAkMARK SHADjSIGN ANUSVARAiCANDRABINDUpUBJOINE
D LETTER AbBAcCAbHAdDAbZAdGAcHAcJAcKAbHAdLAcMAcNAbGAcYAdPAbHAdRAcSAbHAdTAbHAcSAbHAeWAcYAcZAbHAuVOW
EL SIGN AAcEbIbObUrRIAGE SYMBOLmTIAL ARTS UNIFORMsSARAM GONDI DIGIT EIGHTfFIVEdOUReNINEeONEdSEVENe
IXdTHREEeWOdZEROkLETTER AaAbIbUcBAbHAdCAbHAdDAbDAbHAdHAdEbGAbHAdHAcIaIcJAbHAcNYAeKAbHAcSSAeLAbLAdM
AcNAbGAcNAcYAdObPAbHAdRAcSAbHAcSAdTAbHAcRAcTAbHAeUaUcVAcYAjRA-KARAgEPHAfSIGN ANUSVARAiCANDRAgHALAN
TAhNUKTAfVISARGAmVIRAMAfOWEL SIGN AAbIbUcEbIaIcObUaUcVOCALIC RzgCULINE ORDINAL INDICATORyK WORK SY
MBOLnU MARKhTE DRINKhHEMATICAL BOLD CAPITAL AaLPHAfBaETAeCaHIdDaELTAeIGAMMAhEaPSILONgTAdFbGaAMMAfH
bIaOTAeJbKaAPPAfLaAMDAfMaUcNaUcOaMEGAdICRONhPaHIcIbSIdQbRaHOdSaIGMAfTaAUcHETAa SYMBOLmUaPSILONhVbW
bXaIcYbZaETAmDIGIT EIGHTfFIVEdOUReNINEeONEdSEVENeIXdTHREEeWOdZEROkEPSILON SYMBOLoFRAKTUR CAPITAL A
bBbCbDbEbFbGbHbIbJbKbLbMbNbObPbQbRbSbTbUbVbWbXbYbZjSMALL AbBbCbDbEbFbGbHbIbJbKbLbMbNbObPbQbRbSbTbU
bVbWbXbYbZpITALIC CAPITAL AaLPHAfBaETAeCaHIdDaELTAfEaPSILONgTAdFbGaAMMAfHbIaOTAeJbKaAPPAfLaAMDAfMa
UcNaUcOaMEGAdICRONhPaHIcIbSIdQbRaHOdSaIGMAfTaAUcHETAa SYMBOLmUaPSILONhVbWbXaIcYbZaETAmEPSILON SYMB
OLoKAPPA SYMBOLmNABLAfPARTIAL DIFFERENTIALtHI SYMBOLjI SYMBOLjRHO SYMBOLkSMALL AaLPHAfBaETAeCaHIdD
aELTAfEaPSILONgTAdFaINAL SIGMAlGaAMMAfHbIaOTAeJbKaAPPAfLaAMDAfMaUcNaUcOaMEGAdICRONhPaHIcIbSIdQbRaH
OdSaIGMAfTaAUcHETAfUaPSILONhVbWbXaIcYbZaETAkTHETA SYMBOLtKAPPA SYMBOLmNABLAfPARTIAL DIFFERENTIALtH
I SYMBOLjI SYMBOLjRHO SYMBOLkSCRIPT CAPITAL AbBbCbDbEbFbGbHbIbJbKbLbMbNbObPbQbRbSbTbUbVbWbXbYbZjSM
ALL AbBbCbDbEbFbGbHbIbJbKbLbMbNbObPbQbRbSbTbUbVbWbXbYbZnMALL AaLPHAfBaETAeCaHIdDaELTAeIGAMMAhEaPSI
LONgTAdFaINAL SIGMAlGaAMMAfHbIaOTAeJbKaAPPAfLaAMDAfMaUcNaUcOaMEGAdICRONhPaHIcIbSIdQbRaHOdSaIGMAfTa
AUcHETAfUaPSILONhVbWbXaIcYbZaETAkTHETA SYMBOLrDOUBLE-STRUCK CAPITAL AbBbDbEbFbGbIbJbKbLbMbObSbTbUb
VbWbXbYjDIGIT EIGHTfFIVEdOUReNINEeONEdSEVENeIXdTHREEeWOdZEROkSMALL AbBbCbDbEbFbGbHbIbJbKbLbMbNbObP
bQbRbSbTbUbVbWbXbYbZvFALLING DIAGONALpRAKTUR CAPITAL AbBbDbEbFbGbJbKbLbMbNbObPbQbSbTbUbVbWbXbYjSMA
LL AbBbCbDbEbFbGbHbIbJbKbLbMbNbObPbQbRbSbTbUbVbWbXbYbZpITALIC CAPITAL AaLPHAfBaETAeCaHIdDaELTAfEaP
SILONgTAdFbGaAMMAfHbIaOTAeJbKaAPPAfLaAMDAfMaUcNaUcOaMEGAdICRONhPaHIcIbSIdQbRaHOdSaIGMAfTaAUcHETA
a SYMBOLmUaPSILONhVbWbXaIcYbZaETAmEPSILON SYMBOLoKAPPA SYMBOLmNABLAfPARTIAL DIFFERENTIALtHI SYMBOL
jI SYMBOLjRHO SYMBOLkSMALL AaLPHAfBaETAeCaHIdDaELTAeOTLESS IbJjEaPSILONgTAdFaINAL SIGMAlGaAMMAfIaO
TAeJbKaAPPAfLaAMDAfMaUcNaUcOaMEGAdICRONhPaHIcIbSIdQbRaHOdSaIGMAfTaAUcHETAfUaPSILONhVbWbXaIcYbZaETA
kTHETA SYMBOLtLEFT ANGLE BRACKETnDOUBLE ANGLE BRACKETuFLATTENED PARENTHESISvWHITE SQUARE BRACKEToT
ORTOISE SHELL BRACKETziMONOSPACE CAPITAL AbBbCbDbEbFbGbHbIbJbKbLbMbNbObPbQbRbSbTbUbVbWbXbYbZjDIGI
T EIGHTfFIVEdOUReNINEeONEdSEVENeIXdTHREEeWOdZEROkSMALL AbBbCbDbEbFbGbHbIbJbKbLbMbNbObPbQbRbSbTbUbV
bWbXbYbZrRIGHT ANGLE BRACKETnDOUBLE ANGLE BRACKETuFLATTENED PARENTHESISvWHITE SQUARE BRACKEToTORTO
ISE SHELL BRACKETzhSING DIAGONALpSANS-SERIF BOLD CAPITAL AaLPHAfBaETAeCaHIdDaELTAfEaPSILONgTAdFbGa
AMMAfHbIaOTAeJbKaAPPAfLaAMDAfMaUcNaUcOaMEGAdICRONhPaHIcIbSIdQbRaHOdSaIGMAfTaAUcHETAa SYMBOLmUaPSIL
ONhVbWbXaIcYbZaETAmDIGIT EIGHTfFIVEdOUReNINEeONEdSEVENeIXdTHREEeWOdZEROkEPSILON SYMBOLoITALIC CAPI
TAL AaLPHAfBaETAeCaHIdDaELTAfEaPSILONgTAdFbGaAMMAfHbIaOTAeJbKaAPPAfLaAMDAfMaUcNaUcOaMEGAdICRONhPaH
IcIbSIdQbRaHOdSaIGMAfTaAUcHETAa SYMBOLmUaPSILONhVbWbXaIcYbZaETAmEPSILON SYMBOLoKAPPA SYMBOLmNABLAf
PARTIAL DIFFERENTIALtHI SYMBOLjI SYMBOLjRHO SYMBOLkSMALL AaLPHAfBaETAeCaHIdDaELTAfEaPSILONgTAdFaIN
AL SIGMAlGaAMMAfHbIaOTAeJbKaAPPAfLaAMDAfMaUcNaUcOaMEGAdICRONhPaHIcIbSIdQbRaHOdSaIGMAfTaAUcHETAfUaP
SILONhVbWbXaIcYbZaETAkTHETA SYMBOLtKAPPA SYMBOLmNABLAfPARTIAL DIFFERENTIALtHI SYMBOLjI SYMBOLjRH
O SYMBOLkSMALL AaLPHAfBaETAeCaHIdDaELTAfEaPSILONgTAdFaINAL SIGMAlGaAMMAfHbIaOTAeJbKaAPPAfLaAMDAfMa
UcNaUcOaMEGAdICRONhPaHIcIbSIdQbRaHOdSaIGMAfTaAUcHETAfUaPSILONhVbWbXaIcYbZaETAkTHETA SYMBOLrCAPITA
L AbBbCbDbEbFbGbHbIbJbKbLbMbNbObPbQbRbSbTbUbVbWbXbYbZjDIGIT EIGHTfFIVEdOUReNINEeONEdSEVENeIXdTHREE
eWOdZEROkITALIC CAPITAL AbBbCbDbEbFbGbHbIbJbKbLbMbNbObPbQbRbSbTbUbVbWbXbYbZjSMALL AbBbCbDbEbFbGbHb
IbJbKbLbMbNbObPbQbRbSbTbUbVbWbXbYbZoSMALL AbBbCbDbEbFbGbHbIbJbKbLbMbNbObPbQbRbSbTbUbVbWbXbYbZrCRIP
T CAPITAL AbCbDbGbJbKbNbObPbQbSbTbUbVbWbXbYbZjSMALL AbBbCbDbFbHbIbJbKbLbMbNbPbQbRbSbTbUbVbWbXbYbZz
aXIMIZEgYAN NUMERAL EIGHTaEENhLEVENgFIFTEENfVEdOURaTEENiNINEaTEENiONEdSEVENaTEENiIXaTEENhTENcHIRTE
ENgREEeWELVEeOdZEROrEASURED ANGLEa OPENING LEFTmWITH OPEN ARM ENDING IN ARROW POINTING DOWN AND LE
FTeRIGHToLEFT AND DOWNeUPlRIGHT AND DOWNeUPmUP AND LEFTeRIGHTzzhBYcRIGHT ANGLE WITH DOTzbT ON BONE
kCHANICAL ARMdLEGmDEFAIDRIN CAPITAL LETTER AaIbTIUeBbCbDbEbFbGbHaPcIbJbKaPcLbMbNaGbYcOaEcPbQbRbSbT
bUbVbWbXbYaUcZpOMMAfDIGIT EIGHTfFIVEdOUReNINEeONEa ALTERNATE FORMsSEVENeIXdTHREEa ALTERNATE FORMtW
Oa ALTERNATE FORMsZEROkEXCLAMATION OHoFULL STOPjNUMBER EIGHTEENhLEVENgFIFTEENgOURTEENiNINETEENiSEV
ENTEENiIXTEENhTENcHIRTEENhWELVEnSMALL LETTER AaIbTIUeBbCbDbEbFbGbHaPcIbJbKaPcLbMbNaGbYcOaEcPbQbRbS
bTbUbVbWbXbYaUcZnYMBOL AIVAuIEVAL COMMAfEXCLAMATION MARKqQUESTION MARKsUM BLACK CIRCLElOLD WHITE C
IRCLErEIGHT POINTED BLACK STARsSPOKED ASTERISKvFIVE SPOKED ASTERISKtLATTENED LEFT PARENTHESIS ORNA
MENTzaRIGHT PARENTHESIS ORNAMENTzkOUR POINTED BLACK STARkPINWHEEL STARzbGREEK CROSSlLEFT CURLY BRA
CKET ORNAMENTwPARENTHESIS ORNAMENTv-POINTING ANGLE BRACKET ORNAMENTzlMATHEMATICAL SPACEsRIGHT CURL
Y BRACKET ORNAMENTwPARENTHESIS ORNAMENTv-POINTING ANGLE BRACKET ORNAMENTzmSALTIREgHADEeIX POINTE
D BLACK STARsSPOKED ASTERISKsMALL WHITE CIRCLEsTHREE POINTED BLACK STARkPINWHEEL STARzcVERTICAL BA
RmWHITE CIRCLEgSQUARErETEI MAYEK AHANG KHUDAMlNJIdPUN IYEKjCHEIKHANcEIiDIGIT EIGHTfFIVEdOUReNINEeO
NEdSEVENeIXdTHREEeWOdZEROkLETTER ATIYAfBAbHAMeCHAbILeDDAbHAdHOUdILdEbGHOUdOKdHUKdIa LONSUMiJHAMdIL
dKHOUdOKa LONSUMkLAIa LONSUMkMITa LONSUMkNAa LONSUMiGOUa LONSUMkNAcYAdObPAa LONSUMiHAMeRAIdSAMcHAc
SAdTHOUdILa LONSUMjTAbHAeUNcWAIdYANGkUM IYEKiSYLLABLE REPETITION MARKyVIRAMAfOWEL SIGN AAIbUcNAPdU
cCHEINAPhIIbNAPeNUNGeONAPeSOUNAPgUNAPdUcVISARGAhYENAPqWORD REPETITION MARKzgLONcTING FACEkMOcNDE K
IKAKUI COMBINING NUMBER HUNDRED THOUSANDSkSiMILLIONSiTEENSdN THOUSANDSkSdHOUSANDSzbDIGIT EIGHTfFIV
EdOUReNINEeONEdSEVENeIXdTHREEeWOjSYLLABLE M001 KIe2 KAe3 KUe4 WIe5 WAe6 WUe7 MINf8 MANf9 MUNg10 BI
e1 BAe2 BUe3 Id4 Ad5 Ud6 DIe7 DAe8 DUe9 SIf20 SAe1 SUe2 TIe3 TAe4 TUe5 LIe6 LAe7 LUe8 JIe9 JAf30 J
Ue1 YIe2 YAe3 YUe4 FIe5 FAe6 FUe7 NINf8 NANf9 NUNg40 HEEf1 HAe2 HOOf3 NGGAg4 KPEEg5 WOe6 HUANg7 MB
EEg8 KOe9 WVAg50 PUe1 PEe2 HENf3 HINf4 LOOf5 TEe6 GBAf7 NGONg8 NYANg9 MENg60 NYONg1 WVIf2 MBAf3 JO
e4 NDOf5 KEEf6 POe7 NDOOg8 PIe9 TOf70 GBOf1 GBOOg2 MBEf3 LEe4 KPUf5 FEe6 KOOf7 VOe8 FEEf9 SOf80 YE
e1 PEEf2 NGGUg3 HEEIg4 LEEf5 VEe6 LONG NGGEl7 HUNf8 FOe9 DEEg90 NGGIg1 TEEf2 KPAf3 GBEEg4 MONf5 KE
e6 HEe7 BEe8 NYENg9 PAg100 Ed1 FANf2 POOf3 BOOf4 TOOf5 LONG MBOOl6 LONG NGGOOm7 GBEf8 KPEf9 YEEg1
0 LONG LEj1 GAe2 KPOOg3 JEe4 WOOf5 NGGEEh6 SEe7 NENf8 WEe9 NDEg20 NGGOg1 YOe2 MBUf3 NDIf4 GBIf5 ND
Uf6 WEEf7 NGGUAh8 HOOUg9 NDAg30 HANf1 INe2 KPIf3 FOOf4 NJOOg5 INe6 SOOf7 EIe8 BOe9 WVEg40 HOe1 YOO
f2 LONG MBOk3 WEIf4 VOOf5 MBIf6 NGGEg7 Od8 GBUf9 NJEEh50 BEEf1 VUe2 NJAf3 LOe4 MUANg5 GIe6 NGGOOh
7 JEEf8 KPOf9 NGGAAi60 JOOf1 LONG MBEk2 SEEf3 EEe4 NYINg5 OOe6 GUEIg7 GUANg8 GUe9 NONg70 NYUNg1 RA
e2 MBOOg3 VEEf4 MBOf5 LONG JOj6 HIe7 NGUANh8 ENe9 KUAg80 DOOf1 DOe2 VIe3 LONG NGGOl4 NGENg5 VAe6 H
Ue7 MBUUg8 MBEEg9 MUENh90 GEEf1 NDEEg2 NJUf3 HONf4 WUIf5 ANe6 SIAf7 FUAzdORAH WITH NINE BRANCHESx
S SYMBOLjRCURYeOITIC CURSIVE FRACTION EIGHT TWELFTHSnLEVEN TWELFTHSpFIVE TWELFTHSmOUR TWELFTHSnNIN
E TWELFTHSnONE HALFeTWELFTHlSEVEN TWELFTHSnIX TWELFTHSmTEN TWELFTHSlHREE TWELFTHSnWO TWELFTHSvLETT
ER AaRCHAIC SAkBAcDAcEbHHAdIbKAbHAdLAcMAcNAbEcObPAcQAcRAcSAbEcTAbEbOcWAcYAiOGOGRAM IMNdRMTmNUMBE
R EIGHTa HUNDREDa THOUSANDqTHOUSANDjY THOUSANDpFIFTYa THOUSANDmVEa HUNDREDa THOUSANDqTHOUSANDmORTY
a THOUSANDmURa HUNDREDa THOUSANDqTHOUSANDnNINEa HUNDREDa THOUSANDqTHOUSANDjTY THOUSANDpONEa HUNDRE
Da THOUSANDqTHOUSANDmSEVENa HUNDREDa THOUSANDqTHOUSANDjTYa THOUSANDpIXa HUNDREDa THOUSANDqTHOUSAND
jTYa THOUSANDoTENa THOUSANDlHIRTYa THOUSANDnREEa HUNDREDa THOUSANDqTHOUSANDnWENTYa THOUSANDnOa HUN
DREDa THOUSANDqTHOUSANDzcHIEROGLYPHIC LETTER AbBAa-2eDAcEbHHAdIbKAbHAdLAcMAcNAa-2dEa-2eObPAcQAcRAa
-2eSAa-2dEcTAa-2dEa-2dOcWAcYAjSYMBOL VIDJa-2zhPERSONhSSAGE WAITINGnTRICAL BREVEfLONG OVER SHORTfTW
O SHORTSuPENTASEMEjSHORT OVER LONGpTETRASEMEiRISEMEgWO SHORTS JOINEDgOVER LONGzaOeIAO LETTER AHbRC
HAIC MAcNAbGAdZZAlBAbRIdDAbDAcLHAbYAeZAbHAcYIcZAeFAcGAbHAbHAeHAbHAdKAcLAbHAbYAdYAdMAbHAdNAaSALIZAT
IONlGAbHAdHAcNAbHAdYAbHAePAbLAdQAbGAdREFORMED TONE-1b2b4b5b6b8fSHAmTEdSAbHAcSAcYIdTAbEbLHAbYAeONE-
2b3b4b5b6b7b8fSAbEbHAcSAdTAdVAbFAdWAcXAcYI DZHAeKAcNNAdPAcTAbSAbHAdTAgZAbHAcSAbHAdZAbSAbYAdYAlSIG
N ASPIRATIONkCONSONANT MODIFIER BARwREFORMED ASPIRATIONkVOICINGvTONE ABOVEfBELOWfRIGHTfTOP RIGHToV
OWEL SIGN AaAbEaEcHHcIbNaGcUcEaAbIbNaGcRaRdIaAaNaGdEbGbIbNGcOaNGdUcNaGcOaERbYcGbObUcROUNDED ERaRlU
aAaNaGdEIcIbNGcOGcUcVWcWaOcYaIbUIrCR DASH SYMBOLlON US SYMBOLnO SIGNfBEcPHONEfSCOPEiDDLE DOTdTHIR
D WHITE RIGHT POINTING INDEXzlLINE HORIZONTAL ELLIPSISzaLITARY HELMETgMEDALlKY WAYgL SIGNhNIBUSdDI
SCeMIZEfUS SIGNa IN TRIANGLElWITH COMMA ABOVElDOT BELOWjFALLING DOTSmRISING DOTSvTILDEg-OR-PLUS SI
GNpYcRRORa BALLkMSPdOBILE PHONEa OFFdWITH RIGHTWARDS ARROW AT LEFTzpDELScRN PENTATHLONoI ABBREVIAT
ION SIGNrDANDAeIGIT EIGHTfFIVEdOUReNINEeONEdSEVENeIXdTHREEeWOdZEROjOUBLE DANDAmLETTER AaAbIbUcBAbH
AdCAbHAdDAbDAbHAdHAdEbGAbHAdHAcIaIcJAbHAdKAbHAdLAbLAdMAcNAbGAcNAcYAdObPAbHAdRAcSAbHAcSAdTAbHAcTAbH
AeUaUcVAbOCALIC LaLcRaRkYAjSIGN ANUSVARAhRDHACANDRAlHUVAeVIRAMAeSARGAmVOWEL SIGN AAbIbUcEbIaIcObUa
UcVOCALIC LaLcRaRwFIER BREVE WITH INVERTED BREVEzaLETTER ACUTE ACCENTlLVEOLAR CLICKnPOSTROPHEkBEGI
N HIGH TONEjLOW TONEnILABIAL CLICKoCAPITAL AaEcBaARRED BiCbDbEbFbGbHa WITH STROKEnIbJbKbLbMbNbOaUc
PbQbRaEVERSED EbNkTbUbVbWiENTRED LEFT HALF RINGoRIGHT HALF RINGwHINESE TONE YANG PINGeQUcRUcSHANGj
IN PINGeQUcRUcSHANGvIRCUMFLEX ACCENTqOLONeROSS ACCENTlYRILLIC ENcHARD SIGNjSOFT SIGNsDENTAL CLICKl
OT HORIZONTAL BARoSLASHfVERTICAL BARoUBLE APOSTROPHEkPRIMEkWN ARROWHEADjTACKjEND HIGH TONEjLOW TON
ElXTRA-HIGH DOTTED LEFT-STEM TONE BARsTONE BARpLEFT-STEM TONE BARsTONE BARnLOW DOTTED LEFT-STEM TO
NE BARsTONE BARpLEFT-STEM TONE BARsTONE BARsGEORGIAN NARlLOTTAL STOPa WITH STROKExRAVE ACCENTmHAL
F TRIANGULAR COLONuIGH DOTTED LEFT-STEM TONE BARsTONE BARpLEFT-STEM TONE BARsTONE BARnLATERAL CLIC
KmEFT ARROWHEADjHALF RINGjTACKiOW ACUTE ACCENTmCIRCUMFLEX ACCENTrDOTTED LEFT-STEM TONE BARsTONE BA
RnWN ARROWHEADoGRAVE ACCENTmINVERTED EXCLAMATION MARKzaLEFT ARROWaHEADk-STEM TONE BARsMACRONgRIGH
T ARROWHEADnNGeTILDEeONE BARiUP ARROWHEADmVERTICAL LINEoER RIGHT CORNER ANGLEyMACRONfID DOTTED LEF
T-STEM TONE BARsTONE BARpLEFT-STEM TONE BARsTONE BARjDLE DOUBLE ACUTE ACCENTmGRAVE ACCENTtGRAVE AC
CENTrNUS SIGNkOPEN SHELFkPLUS SIGNiRIMEfRAISED COLONfDOWN ARROWkEXCLAMATION MARKqINVERTED EXCLAMAT
ION MARKzaUP ARROWoETROFLEX CLICK WITH RETROFLEX HOOKziVERSED COMMAfGLOTTAL STOPa WITH STROKEzhHOT
IC HOOKkIGHT ARROWHEADjHALF RINGjTACKkSHELFdORT EQUALS SIGNqMALL AaEbINcLPHAfBa WITH HOOKkARRED Oh
ETAdOTTOM HALF OnCa WITH CURLkAPITAL AAcBbGa WITH HOOKlHbIa WITH STROKEmNVERTED RkLa WITH BELTlNbO
EcRbUbYiHIcLOSED OMEGAfREVERSED OPEN EwDa WITH HOOKa AND TAILnTAILkELTAdZH DIGRAPHlOTLESS J WITH S
TROKEa AND HOOKzeZ DIGRAPHa WITH CURLeRETROFLEX HOOKzfEaNGcSHcTHcZHdFaENG DIGRAPHmGa WITH HOOKkAMM
AeREEK GAMMAfPHIjHa WITH HOOKeSTROKEmENGa WITH HOOKoI WITH STROKEmOTAeJa WITH CROSSED-TAILtKbLa WI
TH BELTeINVERTED LAZY SpMIDDLE TILDEmPALATAL HOOKmRETROFLEX HOOKa AND BELTzeEZHa WITH RETROFLEX HO
OKxIGATURE OEkS DIGRAPHjZ DIGRAPHkMa WITH HOOKlN WITH LEFT HOOKjRETROFLEX HOOKvOa WITH STROKEmPE
N EbOgPaHIdQbRa WITH FISHHOOKiTAILkAMS HORNiEVERSED EbGLOTTAL STOPmOPEN EpSa WITH CURLeHOOKkCHWAdR
IPT GhIDEWAYS UkTa WITH PALATAL HOOKmRETROFLEX HOOKuC DIGRAPH WITH CURLtESH DIGRAPHlHETAeOP HALF O
jS DIGRAPHa WITH RETROFLEX HOOKzeURNED AaEbLPHAfHbIbMa WITH LONG LEGpOPEN EgRa WITH HOOKeLONG LEG
a AND RETROFLEX HOOKzjVbWbYa WITH BELTsUa BARdWITH LEFT HOOKpPSILONhVa WITH HOOKeRIGHT HOOKrWbXbYb
Za WITH CURLeRETROFLEX HOOKzbTRESS AND HIGH TONEjLOW TONEsUPERSCRIPT HALF TRIANGULAR COLONvTRIANGU
LAR COLONzdTRIANGULAR COLONpURNED COMMAmUNASPIRATEDkP ARROWHEADjTACKgScVERTICAL LINEmOICINGhYANG D
EPARTING TONE MARKxIN DEPARTING TONE MARKzlULO TWO SUMmNEY BAGdWITH WINGSl-MOUTH FACEnGOLIAN BIRGA
a WITH DOUBLE ORNAMENTpORNAMENTtCOLONdMMAfDIGIT EIGHTfFIVEdOUReNINEeONEdSEVENeIXdTHREEeWOdZEROjOUB
LE BIRGA WITH ORNAMENTzbELLIPSISiFOUR DOTSiREE VARIATION SELECTOR FOUReONEdTHREEeWOzbULL STOPjINVE
RTED BIRGAa WITH DOUBLE ORNAMENTzkLETTER AaLI GALI AaHbNUSVARA ONEmBALUDAgCAcDAaGALGAfMARUfDAdHAL
F UbYAhIaNVERTED UBADAMAqKAcNGAcNAdPAbHAdSSAdTAbHREE BALUDAlTAbHAeUBADAMAhVISARGA ONElZAbHAlNGdBAc
CHAa WITH TWO DOTSpIdDAcEaEcFAcGAcHAAdIbJAcKAbHAdLAbHAdMAaNCHU ALI GALI BHAdCAbYAdDDHAdHAdGHAdJHAd
LHAdNGAdSSAdTAbTAdZAbHAmFAcIbKAcRAcZHAkNAcOaEcPAcQAcRAcSAbHAcIBE ANGdCHAdDAcEbFAcGAaAdHAaAdIaYcJAc
KAcPAcRAAdSHAdTAbSAdUaEcZAbHAiTAbODO ALI GALI TAcZHAlNGdBAcCHAdDAbZAdEbGAaAdHAAdIbJAbIAdKAcLONG VO
WEL SIGNpMAcNIAdOaEcPAcQAcTAbSAdUaEcWAcYAgSAdUaEcWAcYAcZAbHIcRAkMANCHU COMMAfFULL STOPqNIRUGUgROTA
TED BIRGAa WITH DOUBLE ORNAMENTpORNAMENTzcSIBE SYLLABLE BOUNDARY MARKERzdWIRL BIRGAa WITH DOUBLE O
RNAMENTpORNAMENTzaTODO SOFT HYPHENpRIPLE BIRGA WITH ORNAMENTzaURNED SWIRL BIRGA WITH DOUBLE ORNAME
NTzoVOWEL SEPARATORwKEYa FACEiOGRAM FOR EARTHfYANGdINmRAILeSTABLE SYMBOLpOD BUBBLEiN CAKEeVIEWIN
G CEREMONYtSQUEbITOgTHER CHRISTMASnOR BOATeSCOOTERiIZED WHEELCHAIRpWAYgUNT FUJIfAINa BICYCLISTjCAB
LEWAYiRAILWAYnSEa FACEeTRAPhTHdVIE CAMERAkYAIeRO DANDAeIGIT EIGHTfFIVEdOUReNINEeONEdSEVENeIXdTHREE
eWOdZEROjOUBLE DANDAmLETTER AbBAcCHUdDAaIdEaAcHAIbOdKEAAEeHAIdOcLAaNdMAEMdIMdNGIcINdOaLbOcPAbHIdRI
bOcSHIdTAbEKcHEAeWAcYOmUCH GREATER-THANmLESS-THANmLTANI LETTER AbBAbHAdCAbHAdDAbDAbDAcHAdHAdEbGAbH
AdHAcIbJAbJAdKAbHAdLAcMAcNAbNAcYAdPAbHAdRAbHAcRAdSAcTAbHAcTAbHAeUbVAcYAjSECTION MARKqIMAPdPLE MUSI
CAL NOTESpICATION SIGNa IN DOUBLE CIRCLEnLEFT HALF CIRCLEqRIGHT HALF CIRCLErTRIANGLElWITH DOT ABOV
EjUNDERBARsXlSETa MULTIPLICATIONoUNIONmSHROOMfIC FLAT SIGNjNATURAL SIGNmSHARP SIGNlAL KEYBOARDa WI
TH JACKStNOTEeSCOREeYMBOL ARPEGGIATO DOWNeUPnBEGIN BEAMePHRASEgSLUReTIEiRACEbKETfEATH MARKiVEbIS
a RESTlC CLEFfAESURAgIRCLE X NOTEHEADqLIMACUSfVISeUSTER NOTEHEAD BLACKfWHITEvODAcMBINING ACCENTa-S
TACCATOoUGMENTATION DOTqBENDeDOITcUBLE TONGUElWN BOWiFLAG-1b2b3b4b5eIPeHARMONICiLOUREfMARCATOa-STA
CCATOqRIPdSMEAReNAP PIZZICATOnPRECHGESANG STEMqTACCATISSIMOgOgEMeTENUTOfREMOLO-1b2b3hIPLE TONGUEnU
P BOWnMON TIMEkRESCENDOhOIXeUT TIMEiDA CAPOfL SEGNOhMPa ALLgSHED BARLINEnECRESCENDOjGREE SLASHlOUB
LE BARLINEhFLATeSHARPlRUM CLEF-1b2lEIGHTH NOTEeRESTkND BEAMeOF STIMMEjPHRASEgSLUReTIEhF CLEFa OTTA
VA ALTAeBASSAsERMATAa BELOWmINAL BARLINEkGERED TREMOLO-1b2b3qVE-LINE STAFFoLAT DOWNeUPgORTEdUR-LIN
E STAFFkSTRING FRETBOARDuUSA BLACKfWHITEkG CLEFa OTTAVA ALTAeBASSAsLISSANDO DOWNeUPlRACE NOTE NO S
LASHiSLASHoEGORIAN C CLEFgF CLEFqHALF NOTEePEDAL MARKkRESThUPTSTIMMElINVERTED TURNnKIEVAN C CLEFgE
IGHTH NOTE STEM DOWNeUPsND OF PIECEmFINAL NOTEjLAT SIGNjHALF NOTEjQUARTER NOTE STEM DOWNeUPuRECITA
TIVE MARKpWHOLE NOTEqORONfLEFT REPEAT SIGNpONGAa IMPERFECTA RESTpPERFECTA RESTtMAXIMAfEZZOeINIMA
a BLACKfRESTkOON NOTEHEAD BLACKfWHITEsULTI RESTfPLE MEASURE RESTvNATURAL DOWNeUPjEBENSTIMMEkOTEHEA
D BLACKnULL NOTEHEADnONE HUNDRED TWENTY-EIGHTH NOTEeRESTzc-LINE STAFFnRNAMENT STROKE-1a0b1c2b3b4b5
b6b7b8b9qTTAVA ALTAeBASSAmPARENTHESIS NOTEHEADtEDAL MARKeUP MARKlS SUBPUNCTISnIANOeLUS NOTEHEADmOD
ATUSfRRECTUSa FLEXUSqQUARTER NOTEeRESTeTONE FLATeSHARPqINDICESIMA ALTAeBASSAsREPEAT DOTSfED FIGURE
-1b2b3pVERSE FINAL BARLINEuIGHT REPEAT SIGNpNFORZANDOlSCANDICUSa FLEXUSpEGNOdMIBREVIS BLACKfRESTeW
HITEmMINIMA BLACKfRESTeWHITEpHARP DOWNeUPgORT BARLINEmINGLE BARLINEmX-LINE STAFFkSTRING FRETBOARDr
TEENTH NOTEeRESTkY-FOURTH NOTEeRESTqORIdQUARE BbNOTEHEAD BLACKfWHITEuUBITOgTEMPUS IMPERFECTUM CU
M PROLATIONE IMPERFECTAa DIMINUTION-1b2b3xPERFECTAzkPERFECTUM CUM PROLATIONE IMPERFECTAkPERFECTA
a DIMINUTION-1zzcHIRTY-SECOND NOTEeRESTqREE-LINE STAFFpORCULUSa RESUPINUSrRaIANGLE NOTEHEAD DOWN B
LACKfWHITEkLEFT BLACKfWHITEkRIGHT BLACKfWHITElUP BLACKfRIGHT BLACKfWHITElWHITEs-ROUND NOTEHEAD DOW
N BLACKfWHITEziURNa SLASHfUPgWO-LINE STAFFoVIRGAeOID NOTEHEADnWHOLE NOTEeRESTjITH FINGERNAILSqX NO
TEHEADkZpVScWbYANMAR CONSONANT SIGN MEDIAL HAcRAcWAcYAiON MEDIAL LAcMAcNAnSHAN MEDIAL WAzeDIGIT EI
GHTfFIVEdOUReNINEeONEdSEVENeIXdTHREEeWOdZEROkLETTER AaITON RAhUcBAbHAdCAbHAdDAbDAbHAdHAdEaASTERN P
WO KAREN GHWAeNNAdYWAvGAbHAcREAT SAiHAcIaIcJAbHAdKAbHAaMTI CAbHAdDDAbHAdHAdFAcGAcHAbHAdJAbHAdLLAdN
AbYAdRAcSAcTTAbHAeXAcZAjLAbLAdMAbON BBAbEdEbJHAdNGAhNAbGAcNAbYAdYAdObPAbHAdRAbUMAI PALAUNG FAqSAbG
AW KAREN SHAnHAaN AbBAbHAdCAbHAdDAcFAcGAbHAdHAcJHAdKAbHAdNAbNAcYAdPHAdTHAdZAfWE PALAUNG CHAdSHApSA
dTAaI LAING BAbHAdDAbDAbHAdHAdFAcGAbHAdJAbHAdLLAdNNAcYAmHAcTAbHAeUaUcVOCALIC LaLcRaRkWAbESTERN PW
O KAREN PWAdTHAvYAiOGOGRAM KHAMTI HMcOAYdQNsMODIFIER LETTER KHAMTI REDUPLICATIONuSHAN REDUPLICATIO
NzjSHAN DIGIT EIGHTfFIVEdOUReNINEeONEdSEVENeIXdTHREEeWOdZEROoIGN ANUSVARAhSATeDOT BELOWjKHAMTI TON
E-1b3nLITTLE SECTIONoPAO KAREN TONEoRUMAI PALAUNG TONE-5uSECTIONgHAN COUNCIL EMPHATIC TONEnTONE-2b
3oSAWdTONE-2b3b5b6lTAI LAING TONE-2b5qVIRAMAeSARGAhWESTERN PWO KAREN TONE-1b2b3b4b5zdYMBOL AFOREME
NTIONEDnITON EXCLAMATIONlONEdTWOjCOMPLETEDjGENITIVEiLOCATIVEiSHAN EXCLAMATIONlONEpTAI LAING DIGI
T EIGHTfFIVEdOUReNINEeONEdSEVENeIXdTHREEeWOdZEROtONE MARK SGAW KAREN HATHIfKE PHOzcVOWEL SIGN AAbI
aTON AaIiEa ABOVEhGEBA KAREN ImIaIcKAYAH EEcOEcUhMON IIcOfSGAW KAREN EUmHAN AAcEa ABOVEhFINAL YmTA
LL AAhUaUcVOCALIC LaLcRaRkWESTERN PWO KAREN EUcUEzoN-ARY CIRCLED DOT OPERATORmPLUS OPERATORnTIME
S OPERATORvOPRODUCTjINTERSECTIONmLOGICAL ANDdORkPRODUCThSQUARE INTERSECTION OPERATORvUNION OPERATO
RuUMMATIONjTIMES OPERATORoUNIONa OPERATOR WITH DOTdPLUSyWHITE VERTICAL BARxABATAEAN CRUCIFORM NUMB
ER FOURvLETTER ALEPHeYINeBETHeDALETHgFINAL ALEPHfBETHeHEcKAPHeLAMEDHgMEMdNUNdSHINeYODHkGIMELfHEaTH
eKAPHeLAMEDHgMEMdNUNdPEcQOPHeRESHeSADHEdMEKHfHINeTAWcETHeWAWdYODHeZAYINmNUMBER FIVEdOUReONEa HUNDR
EDlTENcHREEeWENTYeOrLAdIL POLISHiRA SIGNiKbME BADGEiNDaINAGARI HEADSTROKEkLETTER AaAbIbUcBAbHAdCAb
HAdDAbDAbHAdHAdEbGAbHAdHAcIaIcJAbHAdKAbHAdLAbLAdMAcNAbGAcNAcYAdObPAbHAdRAbRAdSAbHAcSAdTAbHAcTAbHAe
UaUcVAbOCALIC RaRkYAjSIGN ANUSVARAhVAGRAHAiSIDDHAMhVIRAMAeSARGAmVOWEL SIGN AAbIbUcEbIaIcObPRISHTHA
MATRA EpUaUcVOCALIC RaRzgRROW NO-BREAK SPACEtTIONAL DIGIT SHAPESmPARKlUSEATED FACEmZAR AMULETlBHbS
PdECKTIEfGATED DOUBLE VERTICAL BAR DOUBLE RIGHT TURNSTILEzuIVE ACKNOWLEDGElCIRCLED DIGIT ZEROkLATI
N CAPITAL LETTER AbBbCbDbEbFbGbHbIbJbKbLbMbNbObPbQbRbSbTbUbVbWbXbYbZwNUMBER EIGHTEENhLEVENgFIFTEEN
gOURTEENiNINETEENiSEVENTEENiIXTEENhTHIRTEENhWELVEdNTYnSQUAREgTRIANGLEqDIAGONAL CROSSfDIAMONDhMIDDL
E RIGHT TO LOWER CENTREzmSQUARED ABcCROSS MARKkICcLATIN CAPITAL LETTER AbBbCbDbEbFbGbHbIbJbKbLbMbN
bObPbQbRbSbTbUbVbWbXbYbZwPAcQUESTION MARKnSAcWCrITHER A SUBSET OF NOR EQUAL TOuPERSET OF NOR EQUA
L TOzaPPROXIMATELY NOR ACTUALLY EQUAL TOzkGREATER-THAN NOR EQUAL TOfIVALENT TOnLESS-THANzbLESS-THA
N NOR EQUAL TOfIVALENT TOnGREATER-THANzhLbPTUNEa FORM TWOoRD FACEhSSUSdT WITH EGGSkING DOLLSlUTERc
RAL CHESS BISHOPa ROTATED NINETY DEGREESoTWO HUNDRED SEVENTY DEGREESzrEQUIHOPPERa ROTATED NINETY D
EGREESziKINGa ROTATED NINETY DEGREESoTWO HUNDRED SEVENTY DEGREESzoNIGHTa ROTATED FORTY-FIVE DEGREE
SsNINETY DEGREESoONE HUNDRED THIRTY-FIVE DEGREESzgTHREE HUNDRED FIFTEEN DEGREESzdWO HUNDRED SEVENT
Y DEGREESpTWENTY-FIVE DEGREESzvPAWNa ROTATED NINETY DEGREESoTWO HUNDRED SEVENTY DEGREESzpQUEENa RO
TATED NINETY DEGREESoTWO HUNDRED SEVENTY DEGREESzqROOKa ROTATED NINETY DEGREESoTWO HUNDRED SEVENT
Y DEGREESzpTURNED BISHOPgKINGdNIGHTgPAWNeQUEENfROOKrFACEkW LINEeMOON SYMBOLgWITH FACEoSHEQEL SIGNl
TAI LUE DIGIT EIGHTfFIVEdOUReNINEeONEdSEVENeIXdTHREEeWOdZEROkLETTER FINAL BbDbKbMbNaGcVhHIGH BAcDA
cFAcHAcKAbVAdLAcMAcNAbGAdPAbHAdQAcSAbUAdTAbHAcSAdVAcXAbVAdYAhLOW BAcDAcFAcHAcKAbVAdLAcMAcNAbGAdPAb
HAdQAcSAbUAdTAbHAcSAdVAcXAbVAdYAnSIGN LAEaVjTHAM DIGIT ONEnONE MARK-1b2lVOWEL SIGN AAaYcEbYcEbIIbY
cOaAaYcYcUaEaYcUbYcVOWEL SHORTENERzkA ABBREVIATION SIGNrCOMMAfDANDAeIGIT EIGHTfFIVEdOUReNINEeONEdS
EVENeIXdTHREEeWOdZEROjOUBLE COMMAfDANDAmGAP FILLERkINSERTION SIGNoLETTER AaAbIbUcBAbHAdCAbHAdDAbDA
bHAdHAdEbGAbHAdHAcIaIcJAbHAdKAbHAdLAbHAdMAbHAdNAbGAbHAdHAcNAcYAbHAeObPAbHAdRAbHAdSAbHAcSAdTAbHAcTA
bHAeUaUcVEDIC ANUSVARAnOCALIC LaLcRaRkWAcYAjOMcPLACEHOLDER MARKqSANDHI MARKkIDDHIeGN ANUSVARAhVAGR
AHAiCANDRABINDUlFINAL ANUSVARAoJIHVAMULIYAlNUKTAfUPADHMANIYAlVIRAMAeSARGAmVOWEL SIGN AAbIbUcEbIaIc
ObUaUcVOCALIC LaLcRaRxLINE LEFTeRIGHTkSPAPERhXT LINEePAGEiIGHT WITH STARSoNJAeKO COMBINING DOUBL
E DOT ABOVEqLONG DESCENDING TONEpHIGH TONEjLOW TONEiRISING TONEqNASALIZATION MARKrSHORT HIGH TONEj
LOW TONEiRISING TONEyMAfDANTAYALANjIGIT EIGHTfFIVEdOUReNINEeONEdSEVENeIXdTHREEeWOdZEROjOROME SIGNl
EXCLAMATION MARKqHIGH TONE APOSTROPHEuLAJANYALANjETTER AbBAcCHAdDAaGBASINNAkEaEcFAcGBAdHAcIbJAbON
A CHAdJAcRAhKAcLAcMAcNaAa WOLOSOiYAa WOLOSOkOaOcPAcRAbRAdSAcTAcUbWAcYAiOW TONE APOSTROPHEtSYMBOL G
BAKURUNENkOO DENNENqTAMAN SIGNnLbNBSPeO BICYCLEShREAK HEREkENTRYa SIGNkMOBILE PHONESnONE UNDER EIG
HTEEN SYMBOLzaPEDESTRIANSkIRACYgSMOKING SYMBOLp-BREAK SPACEmMINAL DIGIT SHAPESqSMA SIGNkN-BREAKIN
G HYPHENpPOTABLE WATER SYMBOLvFORKINGiRaDIC MARK SIGNnMAL SUBGROUP OFa OR EQUAL TOzcTH EAST AND SO
UTH WEST ARROWtRROWa AND SOUTH EAST ARROWuCROSSING NORTH WEST ARROWqSOUTH EAST ARROWzaWITH HOOKpBL
ACK ARROWlDOUBLE ARROWmPOINTING BUDdLEAFeVINE LEAFsSANS-SERIF ARROWqTRIANGLE-HEADED ARROWa TO BARz
dWHITE ARROWqINDIC FRACTION ONE EIGHTHgHALFeQUARTERhSIXTEENTHnTHREE QUARTERSiSIXTEENTHSzaPLACEHOLD
ER MARKqQUANTITY MARKkRTER MARKmRUPEE MARKqWEST AND SOUTH EAST ARROWtRROWa AND NORTH EAST ARROWuCR
OSSING NORTH EAST ARROWzaTO CORNERgLONG BARlWITH HOOKpBLACK ARROWlDOUBLE ARROWmPOINTING BUDdLEAFeV
INE LEAFsSANS-SERIF ARROWqTRIANGLE-HEADED ARROWa TO BARzdWHITE ARROWrEAST-POINTING AIRPLANEzaSEc
T A SUBSET OFhPERSET OFmLMOST EQUAL TOoN ELEMENT OFmSYMPTOTICALLY EQUAL TOxCHECK MARKkEQUAL TOfIVA
LENT TOnGREATER-THANmIDENTICAL TOmLESS-THANjNORMAL SUBGROUP OFa OR EQUAL TOzfPARALLEL TOlSIGNdQUAR
E IMAGE OF OR EQUAL TOuORIGINAL OF OR EQUAL TOzfTILDEeRUEfCHED LEFT SEMICIRCLE WITH THREE DOTSzfOW
ER RIGHT-SHADOWED WHITE RIGHTWARDS ARROWzsRIGHT SEMICIRCLE WITH THREE DOTSzhUPPER RIGHT-SHADOWED W
HITE RIGHTWARDS ARROWzxEa PADbGEfBOOKa WITH DECORATIVE COVERzeULaLcMBER EIGHTEEN FULL STOPrLEVEN F
ULL STOPqFIFTEEN FULL STOPqOURTEEN FULL STOPsNINETEEN FULL STOPsSEVENTEEN FULL STOPsIGNcXTEEN FUL
L STOPrTEN FULL STOPmHIRTEEN FULL STOPrWELVE FULL STOPnNTY FULL STOPuERO SIGNjSHU CHARACTER-1B170b
1b2b3b4b5b6b7b8b9bAbBbCbDbEbFc80b1b2b3b4b5b6b7b8b9bAbBbCbDbEbFc90b1b2b3b4b5b6b7b8b9bAbBbCbDbEbFcA0
b1b2b3b4b5b6b7b8b9bAbBbCbDbEbFcB0b1b2b3b4b5b6b7b8b9bAbBbCbDbEbFcC0b1b2b3b4b5b6b7b8b9bAbBbCbDbEbFcD
0b1b2b3b4b5b6b7b8b9bAbBbCbDbEbFcE0b1b2b3b4b5b6b7b8b9bAbBbCbDbEbFcF0b1b2b3b4b5b6b7b8b9bAbBbCbDbEbFd
200b1b2b3b4b5b6b7b8b9bAbBbCbDbEbFc10b1b2b3b4b5b6b7b8b9bAbBbCbDbEbFc20b1b2b3b4b5b6b7b8b9bAbBbCbDbEb
Fc30b1b2b3b4b5b6b7b8b9bAbBbCbDbEbFc40b1b2b3b4b5b6b7b8b9bAbBbCbDbEbFc50b1b2b3b4b5b6b7b8b9bAbBbCbDbE
bFc60b1b2b3b4b5b6b7b8b9bAbBbCbDbEbFc70b1b2b3b4b5b6b7b8b9bAbBbCbDbEbFc80b1b2b3b4b5b6b7b8b9bAbBbCbDb
EbFc90b1b2b3b4b5b6b7b8b9bAbBbCbDbEbFcA0b1b2b3b4b5b6b7b8b9bAbBbCbDbEbFcB0b1b2b3b4b5b6b7b8b9bAbBbCbD
bEbFcC0b1b2b3b4b5b6b7b8b9bAbBbCbDbEbFcD0b1b2b3b4b5b6b7b8b9bAbBbCbDbEbFcE0b1b2b3b4b5b6b7b8b9bAbBbCb
DbEbFcF0b1b2b3b4b5b6b7b8b9bAbBpITERATION MARKsT AND BOLTlYIAKENG PUACHUE HMONG CIRCLED CAkDIGIT EI
GHTfFIVEdOUReNINEeONEdSEVENeIXdTHREEeWOdZEROkLETTER AaAcCAcDAbLAdEaEcFAcGAcHAaHdIbKAcLAcMAbLAdNAbC
AcKAcPAbLAdQAcRAcTAbSAcXAdYAdOaOcPAbLAdQAcRAbRAdSAcTAbSAcXAdUbVAcWbXAbYAdYAcZAiOGOGRAM NYAJnSIGN F
OR ANIMALgINVERTEBRATEmLOCATIONiPERSONgTHINGjXW XWjYLLABLE LENGTHENERtTONE-BbDbGbJbMbSbVzeOBJECT R
EPLACEMENT CHARACTERzbLIQUE ANGLE OPENING DOWNeUPqHYPHENmSERVER EYE SYMBOLsCR AMOUNT OF CHECKpBEL
T BUCKLEkOW TIEgRANCH BANK IDENTIFICATIONzbCHAIReUSTOMER ACCOUNT NUMBERxDASHdOUBLE BACKSLASHqFORKe
HOOKeINVERTED FORKpTAGONAL SIGNlOPUSgDENdFFICE BUILDINGoGHAM FEATHER MARKmLETTER AILMeBEITHfCEIRTe
OLLeDAIReEABHADHfDHADHfMHANCHOLLlFEARNfGORTeIFINdODHADHhLUISeMUINeNGEADALgIONeONNcRcPEITHfRUISeSAI
LdTRAIFgTINNEfUATHdILLEANNhRjREVERSED FEATHER MARKvSPACE MARKoONEKfHM SIGNhIL DRUMhK HAND SIGNlL C
HIKI AHADeDIGIT EIGHTfFIVEdOUReNINEeONEdSEVENeIXdTHREEeWOdZEROkGAAHLAA TTUDDAAGqLETTER AAJbKbMbWcG
bLbNGcTcEDDcNbPbRRdIHbNYcRbScLAaAcEbIbObUcOBbHbTTcVcUCbDbNNcYjMU TTUDDAGi-GAAHLAA TTUDDAAGtPHAARKA
AhUNCTUATION DOUBLE MUCAADnMUCAADsRELAAmD CHINESE HOOK MARKjITERATION MARKwHUNGARIAN CAPITAL LETTE
R AaAbKbMBcNDdCLOSE EhEaBbCaHbScDbEbFbGaYcHbJbKbLaYcMaPcNaCbTa-SHAPED SIGNnYcPbRbSaZcTaYcVbZaSdIaI
cNIKOLSBURG OEcUEnOaEEcOcRUDIMENTA OEcUEmSHORT ERiUaNKcSbUrNUMBER FIFTYdVEeONEa HUNDREDhTHOUSANDmT
ENkSMALL LETTER AaAbKbMBcNDdCLOSE EhEaBbCaHbScDbEbFbGaYcHbJbKbLaYcMaPcNaCbTa-SHAPED SIGNnYcPbRbSaZ
cTaYcVbZaSdIaIcNIKOLSBURG OEcUEnOaEEcOcRUDIMENTA OEcUEmSHORT ERiUaNKcSbUzaITALIC LETTER AbBEcCHEdD
EcEaFbKScLbMbNbRaScSaHbSdHEcIaIcKAbEbHEcUcNORTHERN TSEmObPEbHEdSHEcOUTHERN TSEmTEbHEdUaUcVEcYEcZEj
NUMERAL FIFTYdVEeONEdTENsKEYdNORTH ARABIAN LETTER AINcLEFeBEHdDADbLdES-1b2b3eFEHdGEEMdHAINfHAHcEHd
KAFcHAHeLAMdMEEMeNOONeQAFdREHdSADdTAHcEHcHALcEHeWAWdYEHdZAHbINlNUMBER ONEdTENcWENTYzcPERMIC LETTE
R ANcBURdCHERYfDOIcZHOIdITAfEaFcGAIdHAcIaAbEcKOKEeLEIdMENOEfNENOEfOaOcPEEIeREIdSHCHOOIfOOIeIIdTAIc
SIUeUbVERcOOIeYAaTcERaIbUdRYcUcZATAdHOIpSIAN NUMBER HUNDREDhONEdTENcWENTYeOkSIGN AaURAMAZDAAa-2cHA
mBAaGAdUUMISHhCAcDAaHYAAUSHa-2kIbUcFAcGAbUcHAcIbJAbIcKAbUcLAcMAbIbUcNAbUcPAcRAbUcSAbHAcSAdTAbHAcUc
UbVAbIcXAbSHAAYATHIYAmYAcZAhWORD DIVIDERqONAL COMPUTERrSOGDIAN FRACTION ONE HALFrLETTER ALEPHdTERN
ATE AYINnYINeBETHeFINAL ALEPHfBETHeHEcNUNa WITH VERTICAL TAILwSADHEa WITH VERTICAL TAILyTAWa WIT
H VERTICAL TAILzdGIMELfHEaTHeKAPHeLAMEDHgMEMdNUNdPEcRESH-AYIN-DALETHqSADHEdMEKHfHINeTAWdWAWdYODHeZ
AYINlIGATURE AYIN-DALETHuNUMBER FIVEdOUReONEa HUNDREDlTENcHIRTYeREEeWENTYeOqUTH ARABIAN LETTER ALE
FdYNdBETHeDALETHfHADHEdLETHhFEcGHAYNeIMELfHEaTHeKAPHdHETHfLAMEDHgMEMdNUNdQOPHeRESHeSADHEdMEKHeTcHI
NeTAWcETHdHAWcETHfWAWdYODHeZAYNlNUMBER FIFTYfONEhERIC INDICATORzgTURKIC LETTER ORKHON AaBbDbEBbDbG
bKbLbNbRbSbTbYcGbLbNbQbRbSaHcTbYcBASHeECbLTcMbNCbGbTbYcPbSHcZcIaCbQcOaEaKcPbQbTjYENISEI AaBbDbEaBb
GbKbNaGcTbYcGbLbNGcQbRbSHcTbYcEaCbNCbTbYcSHcZcIaQcOEaKcQyUYGHUR COMBINING DOT ABOVEfBELOWjTWO DOT
S ABOVEfBELOWyLETTER ALEPHfBETHeFINAL HETHkGIMEL-HETHkKAPHeLAMEDHfESHeMEMdNUNdPEcRESHeSADHEdMEKHfH
INeTAWdWAWdYODHeZAYINmPUNCTUATION BARdFOUR DOTSjTWO BARSeDOTSzdER ADULTfMANdWOMANjIVEeM SYMBOLiN W
ITH EXCLAMATION MARK WITH LEFT RIGHT ARROW ABOVEzzaCOMING AUTOMOBILEkBUSdFIRE ENGINElPOLICE CARkTA
XIlE BUTTON MOUSEmDOT LEADERgOVER TWO DOTS PUNCTUATIONzf-PIECE SWIMSUITqIONePEN BOOKcXdCENTRE ASTE
RISKiBLACK STARkCROSSfTEARDROP-SPOKED ASTERISKzgFILE FOLDERkOLDERgHANDS SIGNkLOCKeMAILBOX WITH LOW
ERED FLAGmRAISED FLAGySUBSETePERSETj-CIRCUIT-OUTPUT H-TYPE SYMBOLnL-TYPE SYMBOLzdOUTLINED RIGHTWAR
DS ARROWzcRATING SYSTEM COMMANDwHIUCHUShPOSITIONiTICAL DISCa ICONnON KEYjR WITH DOT INSIDEqANGE BO
OKeHEARThUTANhIGINAL OFiYA AI LENGTH MARKnU LENGTH MARKoDIGIT EIGHTfFIVEdOUReNINEeONEdSEVENeIXdTHR
EEeWOdZEROkFRACTION ONE EIGHTHgHALFeQUARTERhSIXTEENTHnTHREE QUARTERSiSIXTEENTHSzaISSHARgLETTER AaA
bIbUcBAbHAdCAbHAdDAbDAbHAdHAdEbGAbHAdHAcIaIcJAbHAdKAbHAdLAbLAdMAcNAbGAcNAcYAdObPAbHAdRAbHAcRAdSAbH
AcSAdTAbHAcTAbHAeUaUcVAbOCALIC LaLcRaRkWAcYAbYAkSIGN ANUSVARAhVAGRAHAiCANDRABINDUlNUKTAfOVERLINEiV
IRAMAeSARGAmVOWEL SIGN AAbIbUcEbIaIcObUaUcVOCALIC LaLcRaRzaNATE LEFT PARENTHESISqRIGHT PARENTHESIS
wTHODOX CROSSnSAGE CAPITAL LETTER AaHbIaNdBRAdCHAdDHAdEaHCHAdKAcPAcTAbSAeINdGHAdHAbYAdIbKAbHAcYAdL
AcMAcNAcOaINdPAcSAbHAdTAbSAbHAeUbWAcZAbHAsSMALL LETTER AaHbIaNdBRAdCHAdDHAdEaHCHAdKAcPAcTAbSAeINdG
HAdHAbYAdIbKAbHAcYAdLAcMAcNAcOaINdPAcSAbHAdTAbSAbHAeUbWAcZAbHAuCbMANYA DIGIT EIGHTfFIVEdOUReNINEeO
NEdSEVENeIXdTHREEeWOdZEROkLETTER AaAbLEFeBAcCAYNeDEELdHAdEaEcFAcGAcHAcIbJAcKAAFdHAdLAANeMIINeNUUNe
OaOcQAAFeRAcSAbHIINfTAcUbWAWdXAcYAqTTERcOMAN SIYAQ ALTERNATE NUMBER EIGHTfFIVEdOURa HUNDREDmNINEeS
EVENeIXa HUNDREDlTENa THOUSANDlHREEeWOa THOUSANDzeFRACTION ONE HALFeSIXTHsMARRATANiNUMBER EIGHTa H
UNDREDhTHOUSANDjYa THOUSANDpFIFTYa THOUSANDmVEa HUNDREDhTHOUSANDmORTYa THOUSANDmURa HUNDREDhTHOUSA
NDnNINEa HUNDREDhTHOUSANDjTYa THOUSANDpONEa HUNDREDhTHOUSANDmSEVENa HUNDREDhTHOUSANDjTYa THOUSANDp
IXa HUNDREDhTHOUSANDjTYa THOUSANDoTENa THOUSANDlHIRTYa THOUSANDnREEa HUNDREDhTHOUSANDnWENTYa THOUS
ANDnOa HUNDREDhTHOUSANDzhUNCE SIGNiTBOX TRAYiLINED BLACK STARkGREEK CROSSlLATIN CROSSlWHITE STARsV
ERHEATED FACElLAPaPING BLACK SQUARESnWHITE AND BLACK SQUARESrSQUARESuINEhWLcXbYSTERgPACKAGEfDaDIN
G CHARACTERpGEa FACING UPjWITH CIRCLED TEXTlURLkRbScODAeHAWH HMONG CLAN SIGN FAJdHAMbWJeKHABdOOcWM
dLAUJdISdMUASePHABeTHOJdSABcHEEJeWBeVAJcWJdXYOOJfYAJcEEGnONSONANT AUcCAUcHAUeHAUcLAUdNAUeLAUdMAUdN
AUcCHAUeKAUdLAUdTHAUdSAUfPLHAUfQHAUeRAUdVAUdXAUdYAUnDIGIT EIGHTfFIVEdOUReNINEeONEdSEVENeIXdTHREEeW
OdZEROkMARK CIM HOMdKEScHAVeSObUAMeTAUMdUBmNUMBER HUNDRED MILLIONSjSiMILLIONSiTEN BILLIONSiTHOUSAN
DSkSdRILLIONSqSIGN AVcCIM CHEEMeUAM TSHOOJlHAIS LUS NTOG NTOGsNRES TOSiPUB DAWBiTSOV ROGhXWVa CHWV
nHLIcNUBeIB YAMgLOSdMEEJ SUABeTSEEBjUSdNQIGdTUJeTAUcHIRD-STAGE HLIoXHEEJ CEEVlVOS FEEMeLUBdNRUAeSE
EVeTHIABdOMdSHAB CEEBoXAUSdIABdYEEM FAIBeNTXIVfRHOdTOVhOOeZWJ THAJnVOWEL KAABbVcBbIBbVcUBbVcVbWBbV
dEBbEBbVcVcIABbVcBbVcOBbOBbVcVcUABbVcBbVcWBbVuLLASdM BRANCHgDOWN HANDjTREEeUP HANDiS UP TOGETHERnY
RENE LEFT-POINTING FLEURONtTTER ALEPHeYINeBETHeDALETHgFINAL NUNjGIMELfHEaTHeKAPHeLAMEDHgMEMdNUNdPE
cQOPHeRESHeSADHEdMEKHfHINeTAWcETHeWAWdYODHeZAYINmNUMBER FIVEdOUReONEdTENcHREEeWENTYeOkRIGHT-POINTI
NG FLEURONzfNCAKESfDA FACEiPERCLIPhRACHUTEfGRAPH SEPARATORkOScUS MARKmLLEL TOcWITH HORIZONTAL STRO
KErTILDE OPERATORzaENTHESIZED DIGIT EIGHTfFIVEdOUReNINEeONEdSEVENeIXdTHREEeWOjHANGUL CHIEUCHa AiIE
UCa AbUhHIEUHa AhIEUNGa AhKHIEUKHa AiIYEOKa AiMIEUMa AhNIEUNa AhPHIEUPHa AiIEUPa AhRIEULa AhSIOS
a AgTHIEUTHa AiIKEUTa ApIDEOGRAPH ALLIANCEiCALLdONGRATULATIONoEARTHeIGHTeNTERPRISEkFESTIVALhINANCI
ALhREcVEdOUReHAVEeLABORfMETALeOONeNAMEdINEeONEdREACHdPRESENThSOURCEfTeSELFcVENeIXcOCIETYgPECIALgTO
CKdUDYeUNbPERVISEjTENcHREEeWOdWATEReOODoKOREAN CHARACTER O HUdJEONwLATIN CAPITAL LETTER AbBbCbDbEb
FbGbHbIbJbKbLbMbNbObPbQbRbSbTbUbVbWbXbYbZqSMALL LETTER AbBbCbDbEbFbGbHbIbJbKbLbMbNbObPbQbRbSbTbUbV
bWbXbYbZuNUMBER EIGHTEENhLEVENgFIFTEENgOURTEENiNINETEENiSEVENTEENiIXTEENhTENcHIRTEENhWELVEdNTYyROT
dT ALTERNATION MARKrIAL DIFFERENTIALmLINE BACKWARDiDOWNeFORWARDhUPiLY-RECYCLED PAPER SYMBOLzcNERSH
IP SIGNmY POPPERkSSED SYMBOLiNGER SHIPkIVE-PULL-DOWN-OUTPUT SYMBOLsUP-OUTPUT SYMBOLzaPORT CONTROLo
U CIN HAU GLOTTAL STOPa FINALfVARIANTuLETTER AbBAcCAbHAdDAcEbFAbINAL KbLbMbNaGcPbTbWbYhGAcHAcIaAcK
AbHAdLAcMAcNAbGAdObPAbHAdRAcSAcTAbHAdUaAcVAcZAiOW-FALLING TONEa FINALfLONGa FINALzcMID-LEVEL TONE
a FINALfLONG FINALzaRISING TONEa FINALfLONGa FINALwSANDHI GLOTTAL STOPa FINALsTONEa FINALfLONGa FI
NALzhW PRINTSjDFbIcEACE SYMBOLiHbOCKeNUTSeRcDESTRIANiN OVER STAMPED ENVELOPEwCILdGUINeSIVE FACEjTA
GRAMhOPLE HUGGINGmR MILLE SIGNkSIGNeTEN THOUSAND SIGNsCENT SIGNjFORMING ARTSmMANENT PAPER SIGNrPEN
DICULARa WITH SrSEVERING FACEmON BOWING DEEPLYnCLIMBINGiDOING CARTWHEELpFROWNINGiIN LOTUS POSITION
oSTEAMY ROOMoRAISING BOTH HANDS IN CELEBRATIONziWITH BALLdLOND HAIRkCROWNfFOLDED HANDSmHEADSCARFjP
OUTING FACEsAL COMPUTERnPECTIVEjSETA SIGNiO SIGNhTRI DISHjHAGS-PA DOUBLE HEAD MARKqLETTER AaLTERNA
TE YAlSPIRATED FAmBAcCAaNDRABINDUkHAdDAbDAcZAdEaEcFAcGAbGAdHAcIbJAcKAbHAdLAcMAcNAbGAcNAcYAdObPAbHA
dQAcRAcSAbHAcMALL AhTAbHAcSAbHAdTAbHAeUbVOICED HAeLESS SHAnWAcXAcYAcZAbHAkMARK DOUBLE SHADlSHADjSI
NGLE HEAD MARKpUBJOINED LETTER RAcWAcYArPERFIXED LETTER RAzbISTOS DISC SIGN ARROWfBEEaHIVEgOOMERAN
GhWcULLS LEGjCAPTIVEfRPENTRY PLANEnTcHILDeLUBdOLUMNeMBaINING OBLIQUE STROKEyDOLIUMeVEeEAGLEfFLUTEf
GAUNTLEThRATERgHELMETfIDEdORNeLIDbLYeMANACLESgTTOCKhOX BACKhPAPYRUSgEDESTRIANjLANE TREEiUMED HEADl
RAMcOSETTEhSAWcHIELDdPdLINGeMALL AXEiTRAINERiTATTOOED HEADmIARAeUNNYfVINEeWAVY BANDiOMANwILIPPIN
E DOUBLE PUNCTUATIONsSINGLE PUNCTUATIONzcOENICIAN LETTER AINcLFdBETdDELTeGAMLeHEaTdKAFdLAMDeMEMdNU
NdPEcQOFdROSHeSADEdEMKdHINeTAUcETdWAUdYODdZAIkNUMBER ONEa HUNDREDlTENcHREEeWENTYeOkWORD SEPARATORw
LUSfICKaUP TRUCKkEbGa FACEeNOSEgLCROW SIGNjE OF POOiLcNATAdCHED FINGERSkING HANDkE DECORATIONlAPPL
EgWHEEL STARlSCESdTOLeTCHFORKa WITH TEE TOPvLACARDdE OF INTEREST SIGNnWORSHIPnNCK CONSTANTa OVER T
WO PIyYGROUND SLIDEmING CARD ACE OF CLUBSfDIAMONDSiHEARTSgSPADESnBACKdLACK JOKERlEIGHT OF CLUBSfDI
AMONDSiHEARTSgSPADESpFIVE OF CLUBSfDIAMONDSiHEARTSgSPADESnOOLcUR OF CLUBSfDIAMONDSiHEARTSgSPADESoJ
ACK OF CLUBSfDIAMONDSiHEARTSgSPADESoKING OF CLUBSfDIAMONDSiHEARTSgSPADESnNIGHT OF CLUBSfDIAMONDSiH
EARTSgSPADESqNINE OF CLUBSfDIAMONDSiHEARTSgSPADESoQUEEN OF CLUBSfDIAMONDSiHEARTSgSPADESpRED JOKERj
SEVEN OF CLUBSfDIAMONDSiHEARTSgSPADESoIX OF CLUBSfDIAMONDSiHEARTSgSPADESnTEN OF CLUBSfDIAMONDSiHEA
RTSgSPADESmHREE OF CLUBSfDIAMONDSiHEARTSgSPADESoRUMP-1a0b1b2b3b4b5b6b7b8b9c2a0b1c3b4b5b6b7b8b9gW
O OF CLUBSfDIAMONDSiHEARTSgSPADESnWHITE JOKERwDbUaNGEReS SIGNa ABOVE EQUALS SIGNrIN LEFT HALF CIRC
LEqRIGHT HALF CIRCLErTRIANGLElWITH BLACK TRIANGLEoCIRCUMFLEX ACCENT ABOVExDOT BELOWjSMALL CIRCLE A
BOVErUBSCRIPT TWOnTILDE ABOVEfBELOWw-MINUS SIGNmTOa FORM FIVEdOUReTHREEeWOnMbOCKET CALCULATORpLIC
E CARaS REVOLVING LIGHTuOFFICERmODLEeP DIRECTIONAL FORMATTINGkISOLATEuCORNfRTABLE STEREOnSEIDONfIT
ION INDICATORpTAL HORNeMARKa FACEmBOXfT OF FOODiABLE WATER SYMBOLqTOdTED PLANTkUCHcLTRY LEGiND SIG
NhRING LIQUIDlTING CAT FACEiFACEkWER ON SYMBOLh-OFF SYMBOLnSLEEP SYMBOLlYMBOLlRAYER BEADSkECEDES
a ABOVE ALMOST EQUAL TOpEQUALS SIGNlNOT ALMOST EQUAL TOpEQUAL TOmSINGLE-LINE EQUALS SIGNlNOT EQUA
L TOzfBUT NOT EQUIVALENT TOvOR EQUAL TOfIVALENT TOqUNDER RELATIONuGNANT MANdPERSONgWOMANlSCRIPTIO
N TAKEnENTATION FORM FOR VERTICAL COLONdMMAfEM DASHgN DASHgXCLAMATION MARKqHORIZONTAL ELLIPSIStIDE
OGRAPHIC COMMAfFULL STOPvLEFT ANGLE BRACKETnBLACK LENTICULAR BRACKETyCORNER BRACKETnURLY BRACKETnD
OUBLE ANGLE BRACKETuPARENTHESISlSQUARE BRACKEToTORTOISE SHELL BRACKETwWHITE CORNER BRACKEToLENTICU
LAR BRACKETzdOW LINEiQUESTION MARKnRIGHT ANGLE BRACKETnBLACK LENTICULAR BRACKETyCORNER BRACKETnURL
Y BRACKETnDOUBLE ANGLE BRACKETuPARENTHESISlSQUARE BRACKEToTORTOISE SHELL BRACKETwWHITE CORNER BRAC
KEToLENTICULAR BRACKETeKCETzfSEMICOLONjTWO DOT LEADERoWAVY LOW LINEzqTZELeVIOUS PAGElIMEcNCEaSSe
T SCREEN SYMBOLoERa ICONjVACY MESSAGEkTE USE ONEdTWOe-1b2lOBING CANEjHIBITED SIGNmJECTIVEhPERTY LI
NEjORTIONaAL TOmSERPINAjSALTER PAHLAVI FOUR DOTS WITH CROSSfDOTsLETTER ALEPHfBETHeDALETHgGIMELfHEa
THeKAPHeLAMEDHgMEM-QOPHiNUNdPEcSADHEdMEKHfHINeTAWdWAW-AYIN-RESHnYODHeZAYINmNUMBER FOUReONEa HUNDRE
DlTENcHREEeWENTYeOkSECTION MARKmTURNED SECTION MARKzjU1b2bBLIC ADDRESS LOUDSPEAKERyNCTUATION SPACE
lS ELEVATUS MARKtRPLE HEARTjSEdSHPINfT LITTER IN ITS PLACE SYMBOLzfQUADRANT LOWER LEFTeRIGHTlUPPE
R LEFTa AND LOWER LEFT AND LOWER RIGHTuRIGHTlUPPER RIGHT AND LOWER LEFTeRIGHTzlRIGHTa AND LOWER LE
FTa AND LOWER RIGHTzvUPLE INTEGRAL OPERATORrPRIMEmRTER NOTEjTERNION INTEGRAL OPERATORzbESTION EXCL
AMATION MARKqMARKfED EQUAL TOrINCUNXgOTATION MARKoRABBITa FACEjCCOONeING CARdMOTORCYCLEpDICAL SYMB
OL BOTTOMrOa BUTTONhACTIVE SIGNoILWAY CARdTRACKkNaBOWeSED BACK OF HANDmCOMMAfDOTaTED INTERPOLATIO
N MARKERzcFISTeHANDa WITH FINGERS SPLAYEDpPART BETWEEN MIDDLE AND RING FINGERSzvINTERPOLATION MARK
ERuMC SIGNgD SIGNgR SIGNhSQUARElMbTaIOdZOReECEIPTeORD SEPARATORnREATIONAL VEHICLErYCLED PAPER SYMB
OLpING SYMBOL FOR GENERIC MATERIALSrTYPE-1 PLASTICSk2 PLASTICSk3 PLASTICSk4 PLASTICSk5 PLASTICSk
6 PLASTICSk7 PLASTICSzjD APPLEfGIFT ENVELOPEpFERENCE MARKmGIONAL INDICATOR SYMBOL LETTER AbBbCbDbE
bFbGbHbIbJbKbLbMbNbObPbQbRbSbTbUbVbWbXbYbZzfSTERED SIGNnJANG CONSONANT SIGN HbNaGcRqLETTER AbBAcCA
cDAcGAcHAcJAcKAcLAcMAbBAdNAbDAcGAbGAdYAbJAePAcRAcSAcTAcWAcYAjSECTION MARKmVIRAMAfOWEL SIGN AIbUcEa
AbUcIbObUrLIEVED FACElMINDER RIBBONnPLACEMENT CHARACTERtSPONSEfTRICTED LEFT ENTRY-1b2sOOMgTURN LEF
TeRIGHTfSYMBOLlVERSE CHECKER BOARDnINDEXfLIGHT FOUR POINTED PINWHEEL STARzfNE FEEDjSOLIDUSa OPERAT
ORiPRECEDING SUBSETqWITH HORIZONTAL STROKEzfTILDE OPERATOR ABOVE LEFTWARDS ARROWpRIGHTWARDS ARROWz
nD ANGLEa WITH UNDERBARtCOMMAfDOUBLE PRIMEa QUOTATION MARKuSTROKE NOT SIGNwEMPTY SETjFORKED PARAGR
APHOSsHAND WITH MIDDLE FINGER EXTENDEDzhNOT SIGNiPILCROW SIGNlRIMEfQUESTION MARKnRAISED HAND WIT
H FINGERS SPLAYEDzgIGHT ANGLEkOTATED FLORAL HEART BULLETzcSANS-SERIF CAPITAL LtEMICOLONjTHUMBS DOW
N SIGNjUP SIGNnILDEa EQUALSlRIPLE PRIMEmVICTORY HANDsOLVING HEARTSpHINOCEROSjIaAL SIGNhBBONa ARRO
W DOWN LEFTeRIGHTkLEFT DOWNeUPhRIGHT DOWNeUPiUP LEFTeRIGHTtCE BALLeCRACKERkFLEdGHT AND LOWER ONE E
IGHTH BLOCKwUPPER ONE EIGHTH BLOCKyGER BUBBLEjLEa BRACKETa WITH DOTqDOTTED SUBSTITUTION MARKERzbSU
BSTITUTION MARKERtVARIANT WITH SQUAREtWITH ARCdDOWNWARDS ZIGZAG ARROWzhRC GREATER-THAN BRACKETwRO
W WITH CIRCLED PLUSmSMALL CIRCLExBLACK LENTICULAR BRACKETsTORTOISE SHELL BRACKETzdCEILINGgORNER BR
ACKETnURLY BRACKETa LOWER HOOKkMIDDLE PIECEmUPPER HOOKyDOTTED SUBSTITUTION BRACKETzaUBLE ANGLE BRA
CKETmRROW WITH ROUNDED HEADxPARENTHESISlQUOTATION MARKoWIGGLY FENCEtFISH TAILhVE EIGHTHS BLOCKrLOO
RfHALF BLACK CIRCLEgSTARiOCKfFOLDERgMEDIUM SHADEmRUNNING MANoND TELEPHONE RECEIVERxLOW PARAPHRAS
E BRACKETwNORMAL FACTOR SEMIDIRECT PRODUCTzhONE EIGHTH BLOCKmQUARTER BLOCKqPEN SQUARED DOTpUTER JO
INkPARENTHESISa EXTENSIONjLOWER HOOKkUPPER HOOKwRAISED OMISSION BRACKETxS-SHAPED BAG DELIMITERvEMI
DIRECT PRODUCTqVEN EIGHTHS BLOCKsIDEWAYS U BRACKETqNGLE QUOTATION MARKuPEAKERa WITH ONE SOUND WAVE
oTHREE SOUND WAVESzcECH BUBBLEmQUARE BRACKETa EXTENSIONjLOWER CORNERmUPPER CORNERmWITH DOUBLE STRO
KEnQUILLfSTROKEgTICK IN BOTTOM CORNERnTOP CORNERsUNDERBARzcUBSTITUTION BRACKETuTACKdHIRD WHITE RIG
HT POINTING INDEXzfOUGHT BUBBLEmREE EIGHTHS BLOCKnQUARTERS BLOCKtORTOISE SHELL BRACKETvRANSPOSITIO
N BRACKETtIANGLEa ABOVE LEFT TRIANGLEwULAR ONE QUARTER BLOCKzdVERTICAL BAR WITH QUILLnOX LINErWHIT
E CORNER BRACKETnURLY BRACKETnLENTICULAR BRACKETsPARENTHESISlSQUARE BRACKEToTORTOISE SHELL BRACKET
zcIGGLY FENCEn-FACING ARMENIAN ETERNITY SIGNwFISTeSVASTI SIGNa WITH DOTSzdHANDED INTERLACED PENTAG
RAMzcPOINTING ANGLE BRACKETnCURVED ANGLE BRACKETuDOUBLE ANGLE QUOTATION MARKzcMAGNIFYING GLASSzaSH
ADED WHITE RIGHTWARDS ARROWzdIDE ARC CLOCKWISE ARROWyTO-LEFT EMBEDDINGjISOLATEhMARKeOVERRIDErHAN
D INTERIOR PRODUCTvWARDS ARROWa ABOVE ALMOST EQUAL TOpREVERSE ALMOST EQUAL TOpTILDE OPERATORwSHOR
T LEFTWARDS ARROWvTILDE OPERATORtND UPPER AND LOWER ONE EIGHTH BLOCKzlFROM BARa TO BLACK DIAMONDza
OVER LEFTWARDS ARROWuTHROUGH GREATER-THANmSUPERSETiXiO BARcLACK DIAMONDqWITH CORNER DOWNWARDSqDOTT
ED STEMjUBLE VERTICAL STROKEwEQUILATERAL ARROWHEADvHOOKeLARGE TRIANGLE ARROWHEADxOOPeMEDIUM TRIANG
LE ARROWHEADzaNOTCHED TAILmPLUS BELOWkSMALL EQUILATERAL ARROWHEADvTRIANGLE ARROWHEADxTROKEgTAILa W
ITH DOUBLE VERTICAL STROKEwVERTICAL STROKEyIP DOWNWARDSjUPWARDSlVERTICAL STROKEv-TAILkBACK-TILTE
D SHADOWED WHITE ARROWzgLACK ARROWfCIRCLED WHITE ARROWyOTTOM SHADED WHITE ARROWzaCOMPRESSED ARROWq
DASHED ARROWlOUBLE ARROWa FROM BARiWITH STROKEgVERTICAL STROKEv-TAILkDASH ARROWrFINGER-POST ARROWq
RONT-TILTED SHADOWED WHITE ARROWziHANDcRPOON OVER LEFTWARDS HARPOONwWITH BARB DOWN ABOVE LEFTWARD
S HARPOON WITH BARB DOWNznBELOW LONG DASHpFROM BARiTO BARhWARDSjUP ABOVE LEFTWARDS HARPOON WITH BA
RB UPzeONG DASHjRIGHTWARDS HARPOON WITH BARB DOWNzoFROM BARiTO BARhWARDSyEAVY ARROWfCOMPRESSED ARR
OWwLEFT-SHADED WHITE ARROWxOPEN-HEADED ARROWrPAIRED ARROWSnQUADRUPLE ARROWpRIGHT-SHADED WHITE ARRO
WxOCKETgSANS-SERIF ARROWpQUARED ARROWkIGGLE ARROWoTOP SHADED WHITE ARROWvRIANGLE ARROWHEADk-HEADE
D ARROWa OVER LEFTWARDS TRIANGLE-HEADED ARROWzlTO BARgWITH BOLD SHAFTkDOUBLE HORIZONTAL STROKErVER
TICAL STROKEwHEAVY SHAFTlLONG TIP DOWNWARDSjUPWARDSqMEDIUM SHAFTmNARROW SHAFTmVERY HEAVY SHAFTzcDA
SHED ARROWmPAIRED ARROWSzbPLE ARROWfDASH ARROWqWO HEADED ARROWn-HEADED ARROW FROM BARiWITH DOUBL
E VERTICAL STROKEwTAILa WITH DOUBLE VERTICAL STROKEwVERTICAL STROKEyRIANGLE ARROWHEADStVERTICAL ST
ROKEzbTRIPLE DASH ARROWzdWAVE ARROWjHITE ARROWa FROM WALLjWITHIN TRIANGLE ARROWHEADzvNGa ABOVEfBUO
YeEQUAL TOiIN EQUAL TOlOPERATORiPOINTgED PLANETjING BELLkSING DIAGONAL CROSSING FALLING DIAGONALqS
OUTH EAST ARROWzpLEbIbMbOcOASTED SWEET POTATOsBOT FACEiCKaETeLL OF PAPERjED-UP NEWSPAPERoR COASTER
hSKATEiING ON THE FLOOR LAUGHINGzcMAN AS SIGNhCENTURIAL SIGNoDENARIUS SIGNmIMIDIA SEXTULA SIGNtUPO
NDIUS SIGNoNUMERAL EIGHTeLEVENgFIFTYa EARLY FORMkTHOUSANDmVEa HUNDREDhTHOUSANDmOUReNINEeONEa HUNDR
EDa THOUSANDqTHOUSANDa C DqREVERSED ONE HUNDREDuSEVENeIXa LATE FORMnTENa THOUSANDlHREEeWELVEeOlQUI
NARIUS SIGNoSEMUNCIA SIGNlSTERTIUS SIGNnXTANS SIGNiULA SIGNlILIQUA SIGNmUNCIA SIGNoOSTERfSEaTTEfTA
TED CAPITAL QjFLORAL HEART BULLETtHEAVY BLACK HEART BULLETyLIGHT FOUR POINTED BLACK CUSPzeWHITE FO
UR POINTED CUSPzeUND PUSHPINhTARGEThED SYMBOL FOR CAIdFUcLUcSHOUcUANGXIiXItWBOATgSbUBLE SIGNiGBY F
OOTBALLmLE-DELAYEDkMI DIGIT EIGHTfFIVEdOUReNINEeONEdSEVENeIXdTHREEeWOjFRACTION ONE HALFeQUARTERhTH
IRDjTWO THIRDStNUMBER EIGHT HUNDREDiYgFIFTYdVE HUNDREDlORTYdUR HUNDREDmNINE HUNDREDiTYgONE HUNDRED
lSEVEN HUNDREDiTYgIX HUNDREDiTYfTENcHIRTYeREE HUNDREDmWENTYeO HUNDREDvNIC ARLAUG SYMBOLnBELGTHOR S
YMBOLpCROSS PUNCTUATIONrLETTER AC AdESCdLGIZ EOLHXkNSUZ AhBERKANAN BEORC BJARKAN ByCaALCdEALCdNcWE
ORTHhDaAGAZ DAEG DlOTTED-LbNbPiEaARcHWAZ EH EjNGcTHdFEHU FEOH FE FnRANKS CASKET ACbESCeEHcIScOSqGa
ARcEBO GYFU GjRdHAEGL HfGLAZ HiICELANDIC-YRlNGaWAZfORcSAZ IS ISS ImWAZ EOHiJERAN JhKaAUN KcAfLAUKA
Z LAGU LOGR LrONG-BRANCH-AR AEfHAGALL HiMADR MgOSS OfYRoMANNAZ MAN MmNAUDIZ NYD NAUD NrOaEbNbObPEN
-PfS OdTHALAN ETHEL OpPERTHO PEORTH PpQbRAIDO RAD REID RqSHaORT-TWIG-AR AeBJARKAN BjHAGALL HiMAD
R MgNAUD NgOSS OfSOL SfTYR TfYRmIGEL LONG-BRANCH-SOL SwOWILO ShTANeTHURISAZ THURS THORNtIWAZ TIR T
YR TpURUZ UR UjVbWaUNJO WYNN WmXbYaRcZiMULTIPLE PUNCTUATIONuSINGLE PUNCTUATIONsTVIMADUR SYMBOLsNER
cING SHIRT WITH SASHvPEE SIGNiSSIAN ASTROLOGICAL SYMBOL BINOVILEiNOVILEgQUINTILEiSENTAGONiTREDECIL
EjVIGINTILEzmS IN TRIANGLEmAFETY PINdVESTjGITTARIUSjILBOATgKE BOTTLE AND CUPrLT SHAKERhIREeUTING F
ACElMARITAN ABBREVIATION MARKrLETTER ALAFeBAAcITdDALATfFIcGAMANfINbTbYcKAAFeLABATfMIMdNUNdQUFdRISH
eSHANdINGAAThTAAFdITcSAADIYhYUTdZENkMARK DAGESHgEPENTHETIC YUToINa-ALAFhNEQUDAAhOCCLUSIONnODIFIE
R LETTER EPENTHETIC YUToIbSHORT AxPUNCTUATION AFSAAQfNGEDdNAAUfRKAANUgTMAAUgBAUdMELODIC QITSAnNEQU
DAAhQITSAfSHIYYAALAAjOF MASHFAATmTURUeZAEFdIQAArVOWEL SIGN AaAcEbIbLONG AaAcEbIbUgOaVERLONG AaAlSH
ORT AgUKUNfUuNDWICHfS-SERIF HEAVY DOUBLE COMMA QUOTATION MARK ORNAMENTzeTURNED COMMA QUOTATION MAR
K ORNAMENTzsLOW DOUBLE COMMA QUOTATION MARK ORNAMENTzvINTERROBANG ORNAMENTzeRIcTELLITEa ANTENNAoUR
NeURASHTRA CONSONANT SIGN HAARUuDANDAeIGIT EIGHTfFIVEdOUReNINEeONEdSEVENeIXdTHREEeWOdZEROjOUBLE DA
NDAmLETTER AaAbIbUcBAbHAdCAbHAdDAbDAbHAdHAdEaEcGAbHAdHAcIaIcJAbHAdKAbHAdLAbLAdMAcNAbGAcNAcYAdOaOcP
AbHAdRAcSAbHAcSAdTAbHAcTAbHAeUaUcVAbOCALIC LaLcRaRkYAjSIGN ANUSVARAiCANDRABINDUlVIRAMAeSARGAmVOWE
L SIGN AAbIbUcEaEcIaIcOaOcUaUcVOCALIC LaLcRaRzdOPODgXOPHONEiCALESdRFdHOOLa SATCHELmIbOOTEReRPIONcU
SgREENcWDRIVERiIPT CAPITAL BbEbFbHbIbLbMbPbRjLIGATURE ET ORNAMENTuSMALL EbGbLbOlOLLdUPLEgEALbTcCON
D PLACE MEDALpTION SIGNiOReDNAdE-NO-EVIL MONKEYpDLINGgGMENTaED DIGIT EIGHTfFIVEdOUReNINEeONEdSEVEN
eIXdTHREEeWOdZEROsLFIEeMICOLONfDIRECT PRODUCT WITH BOTTOM CLOSEDziSEXTILEjPARATED SYMBOLoRIOUS FAC
E WITH SYMBOLS COVERING MOUTHzmVICE MARKkSAME DOThQUIQUADRATEmT MINUSfTRANSMIT STATEqWING NEEDLElX
TILEgGCcHADOWED WHITE CIRCLEgLATIN CROSSlSTARqLLOW PAN OF FOODqMROCKfRADA ABBREVIATION SIGNrCONTIN
UATION SIGNrDANDAeIGIT EIGHTfFIVEdOUReNINEeONEdSEVENeIXdTHREEeWOdZEROjOUBLE DANDAmEKAMdXTRA SHOR
T VOWEL MARKwHEADSTROKEkLETTER AaAbIbUcBAbHAdCAbHAdDAbDAbHAdHAdEbGAbHAdHAcIaIcJAbHAdKAbHAdLAbLAdMA
cNAbGAcNAcYAdObPAbHAdRAcSAbHAcSAdTAbHAcTAbHAeUaUcVAbOCALIC LaLcRaRkYAjOMcSANDHI MARKkECTION MARK-1
b2mPARATORiIGN ANUSVARAhVAGRAHAiCANDRABINDUlINVERTED CANDRABINDUuJIHVAMULIYAlNUKTAfSIDDHAMhUPADHMA
NIYAlVIRAMAeSARGAlUTRA MARKkVOWEL MODIFIER MARKnSIGN AAbIbUcEbIaIcObPRISHTHAMATRA EpUaUcVOCALIC La
LcRaRzaKcVED ICEgIAN LETTER ADOcGEcHbIRcREbRAYeSHcWEdBIBdCHURCHgDEADeEARbTcGGcRRdFEEdGAGdHA-HAeUNG
eIANcCEcFcJUDGEfKICKeLOLLeMEASUREgIMEeNUNdOAKcILcNbOZEdRbUTdPEEPeROAReSObUREeTHEYcIGHeOTdUPcVOWdWO
EbOLeYEAbWdZOOqEEPdIELDdFT INcOUTgNTO SHRINEkPcOCKED FACE WITH EXPLODING HEADzeOTING STARkPPING BA
GSeTROLLEYnRT BACKSLANTED SOUTH ARROWwENT ARROW POINTING DOWNWARDS THEN NORTH EASTzuDOWN TACKa WIT
H OVERBARwLEFT TACKjRIGHTWARDS ARROW ABOVE LEFTWARDS ARROWznSLANTED NORTH ARROWtUP TACKa ABOVE SHO
RT DOWN TACKvWITH UNDERBARwCAKEeHAND FORMAT CONTINUING OVERLAPsDOWN STEPjLETTER OVERLAPoUP STEPtSd
ULDERED OPEN BOXqWEReRIMPdUGdUFFLE PRODUCTnYcIaDDHAM DANDAeOUBLE DANDAmEND OF TEXT MARKqLETTER AaA
bIbLTERNATE UkUcBAbHAdCAbHAdDAbDAbHAdHAdEbGAbHAdHAcIaIcJAbHAdKAbHAdLAcMAcNAbGAcNAcYAdObPAbHAdRAcSA
bHAcSAdTAbHAbREE-CIRCLE ALTERNATE IxTAbHAdWO-CIRCLE ALTERNATE IaIxUaUcVAbOCALIC LaLcRaRkYAjREPETIT
ION MARK-1b2b3rSECTION MARK DOUBLE RINGa WITH RAYSvWITH CIRCLES AND FOUR ENCLOSURESpRAYSeTWO ENCLO
SURESzbDOUBLE CRESCENTSqQUADRUPLE CRESCENTStRAYS AND DOTTED CRESCENTSjDOUBLE CRESCENTSqTRIPLE CRES
CENTSzhSEPTUPLE CRESCENTSsTRIDENT AND DOTTED CRESCENTSqU-SHAPED ORNAMENTSzcPLE CRESCENTSzhPARATO
R BARdDOTmIGN ANUSVARAiCANDRABINDUlNUKTAfSIDDHAMhVIRAMAeSARGAmVOWEL SIGN AAbIbLTERNATE UaUlUcEbIaI
cObUaUcVOCALIC RaRzbEWAYS BLACK DOWN POINTING INDEXtLEFT POINTING INDEXtRIGHT POINTING INDEXuUP PO
INTING INDEXxWHITE DOWN POINTING INDEXtLEFT POINTING INDEXtRIGHT POINTING INDEXuUP POINTING INDEXz
fGN OF THE HORNSnWRITING AIR BLOW SMALL ROTATIONSqING OUTlSUCK SMALL ROTATIONSqING INoBREATH EXHAL
EgINHALElUSH BETWEENhMULTIPLEiSINGLEmCHEEKS NEUTRALhPUFFEDgSUCKEDmOLONdMMAfDREAMY EYEBROWS DOWN NE
UTRALmNEUTRAL DOWNeUPkUP NEUTRALzaYNAMIC ARROWHEAD LARGEfSMALLpEVERY OTHER TIMEqFASTeGRADUALhRELAX
EDhSIMULTANEOUSa ALTERNATINGxLOWeTENSEnEARSdXCITEMENTjYE BLINK MULTIPLEiSINGLEmWINKfBROWS STRAIGH
T DOWNeNEUTRALhUPrGAZE-FLOORPLANE CURVEDgSTRAIGHTa ALTERNATINGlDOUBLEzbWALLPLANE CIRCLINGhURVEDgST
RAIGHTa ALTERNATINGlDOUBLEzfLASHES DOWNeFLUTTERINGkUPjS CLOSEDgHALF CLOSEDgOPENjOPENeSQUEEZEDiWID
E OPENfNING MOVEMENTwFACE DIRECTION POSITION NOSE FORWARD TILTINGpUP OR DOWNa TILTINGzvILL MODIFIE
R-2b3b4b5b6nNGERfLICK LARGE MULTIPLEiSINGLEmSEQUENTIALjMALL MULTIPLEiSINGLEqOORPLANE SHOULDER HI
P MOVEzcOREHEAD CONTACThNEUTRALhWRINKLEDqULL STOPjGRASP BETWEENhMULTIPLEiSINGLEmHAIRcND-ANGLEa IND
EXa MIDDLE LITTLEgRINGlRING LITTLEa OUTpTHUMBa INcOUTpLITTLE INDEXa THUMB INDEX THUMBa OUTzcUPjMID
DLE RING LITTLEa INcOUTwRING DOWN MIDDLE THUMB INDEX CROSSzeLITTLErCIRCLEa INDEXa BENTeHINGEfMIDDL
Ea CROSS LITTLEhEDhLITTLEgRINGeTHUMBmRING LITTLErLITTLE INDEXfUPjMIDDLE RING LITTLEa BENTqUPjRIN
G LITTLErLAWa FOUR FINGERS CONJOINEDwINDEX THUMB CURVE THUMB INSIDEzfMIDDLE RING LITTLE CONJOINED
a SIDEziNO THUMBiTHUMB FORWARDhSIDEoUPa FIVE FINGERS SPREADa OPENyINDEXa RING LITTLElTHUMBa OPENqM
IDDLE RING LITTLEsNO THUMBiOPENa NO THUMBiTHUMB FORWARDhSIDEpTHUMB FORWARDhSIDEmRLICUEa INDEX RIN
G LITTLE ONuMIDDLE RING LITTLE ONvOPENnFISTa FOUR FINGERS CONJOINED BENTzcHEELeINDEXa BENTa OVER M
IDDLEqCUPPEDgHINGEDa LOWdMIDDLE UPa THUMB SIDEzcMIDDLEa BENTa THUMB STRAIGHTtCONJOINEDa CUPPEDa TH
UMB FORWARDuHINGEDa THUMB SIDErINDEX BENTkMIDDLE BENTlTHUMB FORWARDhSIDEa BENTeCONJOINEDzeROSS LIT
TLEhEDa THUMB SIDEsHINGEDa SPREAD THUMB SIDEyLITTLEgRAISED KNUCKLESoINGa BENTeCONJOINEDoSTRAIGHT T
HUMB BENTtTHUMBa ANGLEDa OUTkBENTeCIRCLEDgONJOINED HINGEDpUPPEDgHINGEDfOOKEDmUP SPREAD THUMB FORWA
RDzfRAISED KNUCKLEnING LITTLElTHUMB ANGLED IN MIDDLE UPmOUT MIDDLE UPuCIRCLEaD MIDDLE UPqUPPED MID
DLE UPoRLICUEfVE THUMB INSIDEgUNDERrFORWARD INDEX BENTeSTRAIGHTwHOOKaED MIDDLE HINGEDgUPqSIDEa BOT
H BENTjINDEX BENTeHINGElTHUMB BENTeCONJOINEDjDIAGONALzaUP MIDDLE HINGEDa THUMB CONJOINEDjSIDEziLIT
TLE BENTeDOWNa OTHERS CIRCLEDoRIPPLE CURVEDgSTRAIGHTuINDEXa THUMBlRAISED KNUCKLEoTHUMBeOUCHES THUM
BnUPjMIDDLE BENT OVER INDEXpDOWNeLITTLEgRAISED KNUCKLEnING LITTLElTHUMB ANGLED INDEX UPiOUT INDE
X CROSSEDhUPtCIRCLED INDEX HINGEDgUPpUPPED INDEX UPpHOOKED INDEX UPpLITTLEmUPa THUMB SIDEuRING DOW
NeINDEXfLITTLEgMIDDLEa CONJOINEDjRAISED KNUCKLESwRAISED KNUCKLEoTHUMBfUPhTHUMBa BETWEEN INDEX MIDD
LEa STRAIGHTvMIDDLE RINGlRING LITTLEtFORWARDhHEELeOVER FOUR RAISED KNUCKLESuTWO FINGERSqSIDE BENTe
CONJOINEDjDIAGONALnUNDER FOUR FINGERSmINDEX BENTkLITTLE UPjTHREE FINGERSmWO FINGERSzcLATa BETWEE
N PALM FACINGSuFIVE FINGERS SPREADa BENTeFOUR BENTjHINGEDa NO THUMBiTHUMB SIDErTHUMB FORWARDzhOU
R FINGERSa BENTeCONJOINEDa SPLITpHINGEDtHEELa FIVE FINGERS SPREADa BENTeFOUR BENTzeTHUMB SIDEpSPLI
T CENTREa THUMB SIDEa BENTwINDEX THUMB SIDEqLITTLEmTHUMB BENTeFORWARDhSIDEpHINGEa FIVE FINGERS SPR
EAD OPENxOUR FINGERS CONJOINEDwINDEXa HINGEDgMIDDLE LITTLEgRINGa CONJOINEDvRING LITTLElTHUMBa LARG
EfOPENeSIDEdMALLrLITTLEa INDEXa THUMBlTHUMBmMIDDLEa RING LITTLEsNO THUMBiOPENa NO THUMBiTHUMB FORW
ARDhSIDEpRINGa DOWN INDEX THUMB HOOK MIDDLEziSMALLfTHUMB BETWEEN MIDDLE RINGtSIDEa TOUCHING INDEXz
fOOKa CURLICUEiINDEX RING LITTLE INcOUTdUNDERxMIDDLE RING LITTLE CONJOINEDa INcOUTzaTHUMBmRING THU
MBpOVALa FIVE FINGERS SPREADtINDEXfLITTLE UPjNO THUMBiRING LITTLElTHUMB FORWARDhSIDEtEADa MOVEMEN
T CIRCLEh-FLOORPLANE CURVEfSTRAIGHTtWALLPLANE CURVEfSTRAIGHTiTILTxRIMiLIMB COMBINATIONlLENGTH-1b2b
3b4b5b6b7lP LOWER OVER UPPERqUPPER OVER LOWERrS PRESSED TOGETHERuOCATION DEPTHfHEAD NECKhIGHTgLIMB
S DIGITSmTORSOfWIDTHg-FLOORPLANE SPACEqWALLPLANE SPACEyMOUTH CLOSED CONTACThFORWARDhNEUTRALnORNERS
hFROWNa OPENeWRINKLEDoKISSa FORWARDhWRINKLEDnOPEN CIRCLEgFORWARDhOVALa WRINKLEDiYAWNjRECTANGLEa WR
INKLEDiYAWNoWRINKLEDnSMILEa OPENeWRINKLEDoTENSEa FORWARDhSUCKEDmWRINKLES DOUBLEgSINGLEtVEMENT-DIAG
ONAL AWAY LARGEaSThMEDIUMgSMALLkBETWEEN AWAY LARGEaSThMEDIUMgSMALLkTOWARDS LARGEaSThMEDIUMgSMALLvT
OWARDS LARGEaSThMEDIUMgSMALLwFLOORPLANE ARM CIRCLE HITTING WALL LARGE DOUBLEgSINGLEmMEDIUM DOUBLEg
SINGLEnSMALL DOUBLEgSINGLEzlBENDdOX LARGEfMEDIUMgSMALLjCHECKeORNER LARGEfMEDIUMgSMALLlROSSeURVE CO
MBINEDiHITTING CEILING LARGEfSMALLnFLOOR LARGEfSMALLtLARGEaSThMEDIUMgSMALLlDOUBLE ALTERNATINGa WRI
ST FLEXwSTRAIGHTiWRIST FLEXrFINGER CIRCLES HITTING WALL DOUBLEgSINGLEzbONTACToHUMP HITTING CEILIN
G LARGE DOUBLEgTRIPLEmSMALL DOUBLEgTRIPLEuFLOOR LARGE DOUBLEmSMALL DOUBLEmTRIPLE LARGE TRIPLEmSMAL
L TRIPLEziSMALLkJAWdLOOP HITTING CEILING LARGE DOUBLEgSINGLEmSMALL DOUBLEgSINGLEuFLOOR LARGE DOUBL
EgSINGLEmSMALL DOUBLEgSINGLEzbSMALLkPEAKS LARGEfMEDIUMgSMALLlSHAKING PARALLELpINGLE STRAIGHT LARGE
aSThMEDIUMgSMALLoWRIST FLEXrTRIPLE ALTERNATING MOVEMENTiWRIST FLEXwSTRAIGHT MOVEMENTrWRIST FLEXrWA
VE HITTING CEILING LARGEfSMALLnFLOOR LARGEfSMALLtLARGEfSMALLeNAKEjRIST CIRCLE HITTING WALL DOUBLEg
SINGLEzhZIGZAG LARGEfMEDIUMgSMALLxHINGE DOWN SEQUENTIALpSIDE TO SIDE SCISSORSvUP DOWN ALTERNATIN
G LARGEfSMALLrLARGEfSMALLkSEQUENTIALtWALLPLANE ARM CIRCLE MEDIUM DOUBLEgSINGLEnSMALL DOUBLEgSINGLE
xBEND LARGEfMEDIUMgSMALLjOX LARGEfMEDIUMgSMALLjCHECK LARGEfMEDIUMgSMALLkORNER LARGEfMEDIUMgROTATIO
NiSMALLlROSSeURVE HALF-CIRCLE LARGEaSThMEDIUMgSMALLqITTING CHESTfFRONT WALLsQUARTER LARGEaSThMEDIU
MgSMALLnTHEN STRAIGHTlREE-QUARTER CIRCLE MEDIUMgSMALLzcD CROSS MEDIUMgSMALLsDOUBLE ALTERNATINGa WR
IST FLEXwSTRAIGHTiWRIST FLEXrFINGER CIRCLES DOUBLEgSINGLEnONTACToHUMP HITTING CHESTfFRONT WALLsLAR
GEfMEDIUMgSMALLkJAWdLOOP HITTING CHESTfFRONT WALLsLARGEfMEDIUMgSMALLa DOUBLErPEAKS LARGEfMEDIUMgSM
ALLlSHAKINGgINGLE STRAIGHT LARGEaSThMEDIUMgSMALLoWRIST FLEXrTRIPLE ALTERNATINGa WRIST FLEXwSTRAIGH
T MOVEMENTrWRIST FLEXrWAVE CURVE DOUBLE LARGEfMEDIUMgSMALLmTRIPLE LARGEfMEDIUMgSMALLsDIAGONAL PAT
H LARGEfMEDIUMgSMALLtHITTING CHESTfFRONT WALLwRIST CIRCLE FRONT DOUBLEgSINGLEzaZIGZAG LARGEfMEDIUM
gSMALLzgNECKdOSE CONTACThNEUTRALhWIGGLESgRINKLESnPARENTHESISlROTATION MODIFIER-10b1b2b3b4b5b6c2b3b
4b5b6b7b8b9l-FLOORPLANE ALTERNATINGa HITTING CEILINGhFLOORzaDOUBLEa HITTING CEILINGhFLOORuSINGLE
a HITTING CEILINGhFLOORzgWALLPLANE ALTERNATEbING HITTING CHESTfFRONT WALLzfDOUBLEa HITTING CHESTfF
RONT WALLzaSINGLEa HITTING CHESTfFRONT WALLzsUB BETWEENhMULTIPLEiSINGLEkSEMICOLONiHOULDER HIP POSI
TIONSjSPINEjTILTING FROM WAISTzbQUEEZE FLICK ALTERNATINGrLARGE MULTIPLEiSINGLEmSEQUENTIALjMALL MUL
TIPLEiSINGLEtTRIKE BETWEENhMULTIPLEiSINGLEmURFACE BETWEENhSYMBOLSpTEETHa BITE LIPSjMOVEMENTiON LIP
Sa MOVEMENTnTONGUEa MOVEMENTwNSE CHEEKS HIGHeLOWdMIDDLEsONGUE CENTRE INSIDE MOUTHmSTICKING OUTtINS
IDE MOUTH RELAXEDuLICKING LIPSmMOVES AGAINST CHEEKtSTICKING OUT FARqTIP BETWEEN LIPSmTOUCHING INSI
DE MOUTHzfRSO-FLOORPLANE TWISTINGtWALLPLANE CURVED BENDlSTRAIGHT STRETCHzfUCH BETWEENhMULTIPLEiSIN
GLElRAVEL-FLOORPLANE ROTATION-FLOORPLANE ALTERNATINGlDOUBLEgSINGLErWALLPLANE ALTERNATINGlDOUBLEgSI
NGLEzaSHAKINGsWALLPLANE ARM SPIRAL DOUBLEgSINGLEgTRIPLErROTATION-FLOORPLANE ALTERNATINGlDOUBLEgSIN
GLErWALLPLANE ALTERNATINGlDOUBLEgSINGLEzaSHAKINGyUPPER BODY TILTING FROM HIP JOINTSzjWALLPLANE SHO
ULDER HIP MOVEzmLHOUETTE OF JAPANrMILAR ABOVE GREATER-THAN ABOVE EQUALS SIGNzfLESS-THAN ABOVE EQUA
LS SIGNziMINUS SIMILARnOR GREATER-THANmLESS-THANsNE WAVEgGLE CHARACTER INTRODUCERuGRAPHIC CHARACTE
R INTRODUCERzdHIGH-REVERSED-9 QUOTATION MARKzfLEFT-POINTING ANGLE QUOTATION MARKziOW-9 QUOTATION M
ARKuRIGHT-POINTING ANGLE QUOTATION MARKzkSHIFT THREEeWOk-SHIFT-2b3lHALA ARCHAIC DIGIT EIGHTfFIVEdO
UReNINEeONEdSEVENeIXdTHREEeWOjNUMBER EIGHTYgFIFTYeORTYfNINETYgONE HUNDREDhTHOUSANDmSEVENTYgIXTYfTE
NcHIRTYfWENTYvLETTER AAYANNAgEEYANNAgYANNAgIYANNAgLPAPRAANA BAYANNAhCAYANNAhDAYANNAgDAYANNAiGAYANN
AhJAYANNAhKAYANNAhPAYANNAhTAYANNAgTAYANNAsMBA BAYANNAlUYANNAgYANNAgDANTAJA LAYANNAhNAYANNAhSAYANNA
pEEYANNAgYANNAgFAYANNAhHAYANNAhIIYANNAgLUUYANNAgYANNAhRUUYANNAgYANNAhYANNAgKANTAJA NAASIKYAYAsMAHA
APRAANA BAYANNAhCAYANNAhDAYANNAgDAYANNAiGAYANNAhJAYANNAhKAYANNAhPAYANNAhTAYANNAgTAYANNAsYANNAgUURD
HAJA LAYANNAhNAYANNAhSAYANNArOOYANNAgYANNAgRAYANNAhSANYAKA DAYANNAgDAYANNAiGAYANNAhJAYANNApTAALUJ
A NAASIKYAYAkSANYOOGA NAAKSIKYAYAsYANNApUUYANNAgYANNAgVAYANNAhYAYANNAnITH DIGIT EIGHTfFIVEdOUReNIN
EeONEdSEVENeIXdTHREEeWOdZEROpPUNCTUATION KUNDDALIYAwSIGN AL-LAKUNAiNUSVARAYAkCANDRABINDUlVISARGAYA
oVOWEL SIGN AELA-PILLAkDIGA AEDA-PILLAkGAETTA-PILLAkYANUKITTAlIS-PILLAiKOMBUVAhPAA-PILLAoGAETTA-PI
LLAkYANUKITTAlKETTI AEDA-PILLAkIS-PILLAiPAA-PILLAoOMBU DEKAfVAa HAA AELA-PILLAkDIGA AELA-PILLApGAY
ANUKITTAzpX PETALLED BLACK AND WHITE FLORETTEzhOINTED BLACK STARkPINWHEEL STARnSTAR WITH MIDDLE DO
Tze-PER-EM SPACEnTEEN POINTED ASTERISKxKATEBOARDiI AND SKI BOOTnERdULLa AND CROSSBONESrNKeLANTED E
QUAL TO OR GREATER-THANa WITH DOT INSIDEzdLESS-THANa WITH DOT INSIDEzmNORTH ARROW WITH HOOKED HEAD
jRIZONTAL TAILzmVONIC ASTERISKpEDbEPING ACCOMMODATIONnFACEeSYMBOLkY FACEiUTH OR SPYlICE OF PIZZAlG
HTLY FROWNING FACEnSMILING FACEtOPEbING LARGE ANDdORnT MACHINEiHeMALL AIRPLANEhMPERSANDiSTERISKiBL
UE DIAMONDmCOLONdMMAbERCIAL ATlNTAINS AS MEMBERjWITH OVERBARhVERTICAL BAR AT END OF HORIZONTAL STR
OKEzzeDOLLAR SIGNlELEMENT OFa WITH OVERBARhVERTICAL BAR AT END OF HORIZONTAL STROKEzzfM DASHgQUAL
S SIGNkXCLAMATION MARKqFULL STOPjGREATER-THAN SIGNrHYPHEN-MINUSmIDEOGRAPHIC COMMArLEFT CURLY BRACK
ETnPARENTHESISlTORTOISE SHELL BRACKETzaSS-THAN SIGNoNUMBER SIGNlORANGE DIAMONDoPERCENT SIGNlLUS SI
GNjQUESTION MARKnREVERSE SOLIDUSoIGHT CURLY BRACKETnPARENTHESISlTORTOISE SHELL BRACKETzcOMAN NUMER
AL EIGHTeLEVENgFIFTYdVEa HUNDREDlOUReNINEeONEa HUNDREDhTHOUSANDmSEVENeIXdTENcHREEeWELVEeOrSEMICOLO
NjTILDEeWO DOTS OVER ONE DOT PUNCTUATIONziVEE WITH UNDERBARsER THANa OR EQUAL TOvSH PRODUCTlILEbIN
G CAT FACE WITH HEART-SHAPED EYESrOPEN MOUTHyFACE WITH HALOdEART-SHAPED EYESqORNSfOPEN MOUTHa AN
D COLD SWEATkSMILING EYESmTIGHTLY-CLOSED EYESzjSMILING EYESa AND HAND COVERING MOUTHtTHREE HEARTSz
dUNGLASSESkTEARtRKING FACElOKING SYMBOLnNAILcKEdEEZING FACElOW CAPPED MOUNTAINqBOARDERhFLAKEfMAN
a WITHOUT SNOWtOaCCER BALLiKSdFT HYPHENgICE CREAMjSHELL FLOPPY DISKsBALLeWARE-FUNCTION SYMBOLwGDIA
N COMBINING CURVE ABOVEfBELOWlDOT ABOVEfBELOWjHOOK ABOVEfBELOWkLONG HOOK BELOWpRESH BELOWkSTROKE B
ELOWmTWO DOTS ABOVEfBELOWyINDEPENDENT SHINqLETTER ALEPHeYINeBETHeFETHeGIMELfHEaTHeKAPHeLAMEDHfESHe
MEMdNUNdPEcRESH-AYINjSADHEdMEKHfHINeTAWdWAWdYODHeZAYINmNUMBER ONEa HUNDREDlTENcWENTYnPUNCTUATION C
IRCLE WITH DOTpHALF CIRCLE WITH DOTuTWO CIRCLES WITH DOTSrVERTICAL BARSa WITH DOTSzuHbLID QUILT SQ
UARE ORNAMENTa IN BLACK SQUAREznUSa WITH OVERBARsM SIGNgON WITH RIGHTWARDS ARROW ABOVEzfRA SOMPEN
G DIGIT EIGHTfFIVEdOUReNINEeONEdSEVENeIXdTHREEeWOdZEROkLETTER AHcBAHdCAHdDAHdEEHcHcGAHdHAHdIHcJAHd
KAHdLAHdMAEbHdNAHcGAHdYAHeOHcPAHdRAHdSAHdTAHdUHcVAHdYAHvSbUND RECORDING COPYRIGHTwTH EAST ARROWa A
ND SOUTH WEST ARROWuCROSSING NORTH EAST ARROWzaTO CORNERjWITH HOOKpBLACK ARROWlDOUBLE ARROWmPOINTI
NG BUDdLEAFeVINE LEAFsSANS-SERIF ARROWqTRIANGLE-HEADED ARROWa TO BARzdWHITE ARROWqWEST ARROWa AN
D NORTH WEST ARROWuWITH HOOKpBLACK ARROWlDOUBLE ARROWmPOINTING BUDdLEAFeVINE LEAFsSANS-SERIF ARROW
qTRIANGLE-HEADED ARROWa TO BARzdWHITE ARROWuYOMBO CLUSTER-INITIAL LETTER LAcRAcSAbHAzbFINAL CONSON
ANT SIGN -AcBbDbGbKbLbMbNaGcRbSaHxGEMINATION MARKpHEAD MARK WITH MOON AND SUNa AND FLAMEfTRIPLE FL
AMEztLETTER -AcAbBAbHAdCAbHAdDAbDAbHAdHAcZAdGAbHAdHAcJAbHAdKAbHAcSSAeLAcMAcNAbGAcNAcYAdPAbHAdRAcSA
bHAcSAdTAbHAcSAbHAdTAbHAeVAcYAcZAbHAkMARK DOUBLE SHADlPLUTAfSHADeTSHEGkSIGN ANUSVARAiJIHVAMULIYAlU
PADHMANIYAlVISARGAlUBJOINERjTERMINAL MARK-1b2pVOWEL LENGTH MARKlSIGN AIbUcEbIbOaEcUaEcVOCALIC LbRz
cPaAaCEcGHETTIgRKLEaScING HEARTnEAK-NO-EVIL MONKEYpERa WITH CANCELLATION STROKEtONE SOUND WAVEoTHR
EE SOUND WAVESzaING HEAD IN SILHOUETTEyECH BALLOONkDBOATgSMILO SIGNlHERICAL ANGLEa OPENING LEFTeUP
yIDERa WEBhRAL CALENDAR PADmNOTE PADiSHELLkLASHING SWEAT SYMBOLuONGEdOL OF THREADlNcRTS MEDALjUTIN
G WHALEnQUARE A OVER MhARUdMbNPEAePAATOfRUHUAfUcBAARERUfRcEETAeIRUdORUTOfQbUSSYERUiC OVER KGiALbPc
CbDbMa CUBEDfSQUAREDjOaRPORATIONkUPdDAaASUeBbESIdJbLbMa CUBEDfSQUAREDjORUeEEKAAeRA NAME HEISEIgMEI
ZIfREIWAfSYOUWAgTAISYOUoGcSUKUUDOhVcFMbOOTcUR CORNERSmGALbNMAdRONeBbHZcIGAcNIIdRUDAAgPAcURAMUaTONi
YcHAaITUeEKUTAARUhRUTUfGbIRAGANA HOKAmONbONbRUePaAcUARADDOgIITOeRANeZcIMAGE OFa OR EQUAL TOiNOT EQ
UAL TOxNaINGUeTIdUcK OHMeAaIRIdRATTOeORIIgBbCALdEESUeGbHZcIROaGURAMUgMEETORUhWATTOiKbLbMa CAPITALg
UBEDfSQUAREDjOOPOdRUNAfPAcTbUROONEeUZEIROiVbWbYURIIgLEFT OPEN BOX OPERATORvMbNbOGbZENGEgXcM CUBEDf
OHMcVER Sa SQUAREDoSQUAREDiAaHHAdIKUROeRUdNSYONfRUKUfBa SMALLhEETORUfGAaTONgGbHZcIKURONfLbRIaBAARU
iLbMa CUBEDfSQUAREDjOLcPAcSbU AbFbGbLbMbSbVbWdVa MEGAgWa MEGAhNAaNOdFbMbOTTOeSbVbWcONSUdOMUdRIGINA
L OFa OR EQUAL TOiNOT EQUAL TOzbVcPAa AMPSfASENTOfTUeCbEEZIdNIHIdSUdSOdFbHbIASUTORUhKObURUfMbOINTO
eNDOdSITION INDICATORrPMcRbSbVbWcRADa OVER Sa SQUAREDrEMUcNTOGENhIGHT OPEN BOX OPERATORvRAcTTORUgO
OTdUPIIdUBURUhSAIKURUfNTIIMUhENTIbOeIRINGUgRbVcTARGETfHZcONdUONdV OVER MiWATTOeBbITH BOTTOM HALF B
LACKrCONTOURED OUTLINErDIAGONAL CROSSHATCH FILLyHORIZONTAL FILLpLEFT HALF BLACKoOWER LEFT DIAGONA
L HALF BLACKyRIGHT DIAGONAL HALF BLACKzgORTHOGONAL CROSSHATCH FILLzbRIGHT HALF BLACKqTOP HALF BLAC
KoUPPER LEFT DIAGONAL HALF BLACKtTO LOWER RIGHT FILLyRIGHT DIAGONAL HALF BLACKtTO LOWER LEFT FILLz
fVERTICAL FILLsYAADOcRUeUANfD ASTERISKiCJK UNIFIED IDEOGRAPH-4E00b9c2Dc8CcA4e518Dd21Dc4Dc72d3CCcF3
d408c39d5B6d8F0d91Ac29dB57dDE6dF8Ce624Bc53c95d307c55d599cB0d620d708b9dE80dF14e7121d51Fc33d981dA7Ad
D42e89E3dCA9dD70e904Ad14DzaLbOOLeDOT OPERATORmEIGHT KhFALLING DIAGONAL SLASHvIVE POINT ONEnOUR DO
T PUNCTUATIONpKfREEeHCbDRcI-RESfVcIDcKATAKANA DEcKOKOeSAkEYdLATIN CAPITAL LETTER AbBbCbDbEbFbGbHbI
bJbKbLbMbNbObPbQbRbSbTbUbVbWbXbYbZqSMALL LETTER DtOGICAL ANDdORiSSLESSiMINUSeVcNEWcGcOKbNE HUNDRE
D TWENTY PuPLUSdPVdRISING DIAGONAL SLASHvSALTIREgDbECOND SCREENlVEN POINT ONEoHVcIXTY PgMALL CIRCL
ElOScQUAREfScTHREE DgIMESeWENTY-TWO POINT TWOsO KfUHDcP WITH EXCLAMATION MARKyVODcScWCgT BLACK RIG
HTWARDS ARROWzaIDeS2b3bAcTaADIUMeFF OF AESCULAPIUSlHERMESmMPED ENVELOPEnNDING PERSONmR AND CRESCEN
TmEQUALSgOF DAVIDhPERATORiWITH LEFT HALF BLACKpRIGHT HALF BLACKwT OF GUARDED AREAmHEADINGhPROTECTE
D AREAoSELECTED AREAmTRINGgTEXTkTIONdUE OF LIBERTYpEAM LOCOMOTIVElING BOWLkNOGRAPHIC FULL STOPtTHO
SCOPEjICK FIGUREa LEANING LEFTeRIGHTnWITH ARMS RAISEDlDRESSvOCK CHARTiPWATCHhRAIGHT RULERgNESSiWBE
RRYhESS OUTLINED WHITE STARxICTLY EQUIVALENT TOsNG TERMINATORpSbUDIO MICROPHONEoFFED FLATBREADoPAd
XcUBaSCRIPT EIGHTeQUALS SIGNlFIVEdOUReLEFT PARENTHESISqMINUSfNINEeONEdPLUS SIGNjRIGHT PARENTHESISr
SEVENeIXdTHREEeWOdZEROkET ABOVE RIGHTWARDS ARROWqSUBSETePERSEToOFa ABOVE ALMOST EQUAL TOpEQUALS SI
GNlNOT EQUAL TOmTILDE OPERATORuOR EQUAL TOa WITH DOT ABOVEzbWITH NOT EQUAL TOuWITH DOTdMULTIPLICAT
ION SIGN BELOWzaPLUS SIGN BELOWxTITUTEiCCEEDSa ABOVE ALMOST EQUAL TOpEQUALS SIGNlNOT ALMOST EQUA
L TOpEQUAL TOmSINGLE-LINE EQUALS SIGNlNOT EQUAL TOzfBUT NOT EQUIVALENT TOvOR EQUAL TOfIVALENT TOqU
NDER RELATIONvMMATION BOTTOMgTOPdWITH INTEGRALvNa BEHIND CLOUDmWITH FACEkDANESE AVAGRAHAiCONSONAN
T SIGN PAMINGKALhNYAKRAeIKUfSANGAN MAcWAzbDIGIT EIGHTfFIVEdOUReNINEeONEdSEVENeIXdTHREEeWOdZEROkLET
TER AaEcBAbHAdCAcDAcEaUcFAbINAL KbMhGAcHAcIbJAcKAbHAdLAbEUdMAcNAbGAcYAdObPAcQAcRAbEUdSAbYAdTAcUbVA
cWAcXAcYAcZAjPUNCTUATION BINDU BA SATANGAkCAKRAfDA SATANGAkKA SATANGAkLEU SATANGAlPANGLONGhURNAMAh
SURYAxSIGN PAMAAEHfNGLAYARfWISADgYECEKiVIRAMAlVOWEL SIGN PAMEPETfNAELAENGhEULEUNGhGHULUfOLONGfYUKU
zaFLOWERgRISEa OVER MOUNTAINStSET OVER BUILDINGStPERHEROeSCRIPT EIGHTeQUALS SIGNlFIVEdOUReLATIN SM
ALL LETTER IbNtEFT PARENTHESISqMINUSfNINEeONEdPLUS SIGNjRIGHT PARENTHESISrSEVENeIXdTHREEeWOdZEROkE
T ABOVE LEFTWARDS ARROWpSUBSETePERSEToBESIDE AND JOINED BY DASH WITH SUBSETzfSUBSETnOFa ABOVE ALMO
ST EQUAL TOpEQUALS SIGNlNOT EQUAL TOmTILDE OPERATORuOR EQUAL TOa WITH DOT ABOVEzbWITH NOT EQUAL TO
uPRECEDING SOLIDUSrWITH DOTdMULTIPLICATION SIGN BELOWzaPLUS SIGN BELOWyVILLAINkRFACE INTEGRALmEReS
HIcPENSION RAILWAYrWANbSH AMPERSAND ORNAMENTwIMMERfUNG DASHjYLOTI NAGRI LETTER AbBHOcOcCHOcOcDDHOc
OcHOcOcEbGHOcOcHOcIbJHOcOcKHOcOcLOcMOcNOcObPHOcOcRObROdSOcTHOcObTHOcOdUiPOETRY MARK-1b2b3b4nSIGN A
LTERNATE HASANTAqNUSVARAiDVISVARAiHASANTAmVOWEL SIGN AbEbIbOOcUxMBOL FOR ACKNOWLEDGElBACKSPACEiELL
eCANCELeRRIAGE RETURNpDATA LINK ESCAPEpELETEa FORM TWOnVICE CONTROL FOUReONEdTHREEeWOsEND OF MEDIU
MgTEXTdRANSMISSIONa BLOCKxQUIRYgSCAPEgFILE SEPARATORnORM FEEDjGROUP SEPARATORpHORIZONTAL TABULATIO
NvLINE FEEDjMARKS CHAPTERnNEGATIVE ACKNOWLEDGEsWLINEgULLeRECORD SEPARATORqSAMARITAN SOURCEpHIFT IN
cOUTiPACEeTART OF HEADINGhTEXTmUBSTITUTEa FORM TWOsYNCHRONOUS IDLEqTYPE A ELECTRONICSsUNIT SEPARAT
ORoVERTICAL TABULATIONzcMETRYgNaAGOGUEgCHRONOUS IDLEoRIAC ABBREVIATION MARKrBARREKHhCOLON SKEWED L
EFTeRIGHTqNTRACTIONlDOTTED ZLAMA ANGULARhHORIZONTALxEND OF PARAGRAPHpSASA ABOVEfBELOWlFEMININE DOT
mHARKLEAN ASTERISCUSkMETOBELUSjOBELUSoBASA ABOVEfBELOWg-ESASA DOTTEDrORIZONTAL COLONqLETTER ALAPHf
BETHeDALATHfOTLESS DALATH RISHtEbFINAL SEMKATHnGAMALa GARSHUNIoHEaTHeKAPHeLAMADHgMALAYALAM BHAdJAc
LLAbLAeNGAcNAbNAdYAdRAcSSAdTTAmIMdNUNdPEaRSIAN BHETHfDHALATHhGHAMALoQAPHeREVERSED PEkISHeSADHEeEMK
ATHgHINdOGDIAN FEcKHAPHfZHAINmUPERSCRIPT ALAPHrTAWcETHa GARSHUNInWAWdYUDHa HEhZAINlMUSICfOBLIQUE L
INE ABOVEfBELOWsPTHAHA ABOVEfBELOWfDOTTEDnQUSHSHAYAjRBASA ABOVEfBELOWkUKKAKHAhWAHAfSUBLINEAR COLON
a SKEWED LEFTeRIGHTsFULL STOPrPRALINEAR COLONa SKEWED LEFTrFULL STOPvTHREE DOTS ABOVEfBELOWpWO VER
TICAL DOTS ABOVEfBELOWxZQAPHA ABOVEfBELOWfDOTTEDqNGEhT-REXdSHIRTgABaLE TENNIS PADDLE AND BALLzbCOc
G AMPERSANDiPOSTROPHEjSTERISKiCIRCUMFLEX ACCENTqOLONdMMAbERCIAL ATnDIGIT EIGHTfFIVEdOUReNINEeONEdS
EVENeIXdTHREEeWOdZEROjOLLAR SIGNlEQUALS SIGNkXCLAMATION MARKqFULL STOPjGRAVE ACCENTkEATER-THAN SIG
NrHYPHEN-MINUSmLATIN CAPITAL LETTER AbBbCbDbEbFbGbHbIbJbKbLbMbNbObPbQbRbSbTbUbVbWbXbYbZqSMALL LETT
ER AbBbCbDbEbFbGbHbIbJbKbLbMbNbObPbQbRbSbTbUbVbWbXbYbZtEFT CURLY BRACKETnPARENTHESISlSQUARE BRACKE
TrSS-THAN SIGNnOW LINEiNUMBER SIGNlPERCENT SIGNlLUS SIGNjQUESTION MARKlOTATION MARKoREVERSE SOLIDU
SoIGHT CURLY BRACKETnPARENTHESISlSQUARE BRACKETuSEMICOLONiOLIDUSgPACEfTILDEfVERTICAL LINEoALOG LET
TER AaRCHAIC RAkBAcDAcGAcHAcIbKAcLAcMAcNAbGAdPAcRAcSAcTAcUbWAcYAjSIGN PAMUDPODiVIRAMAlVOWEL SIGN I
bUrBANWA LETTER AbBAcDAcGAcIbKAcLAcMAcNAbGAdPAcSAcTAcUbWAcYAjVOWEL SIGN IbUtI LE LETTER AaIbUEdEaE
bHcFAcHAcIbKAbHAdLAcMAcNAbGAdOaOcPAbHAdQAcSAcTAbHAcONE-2b3b4b5b6fSAbHAeUaEcVAcXAcYAmTHAM COMBININ
G CRYPTOGRAMMIC DOTzaNSONANT SIGN BAcFINAL NGAjHIGH RATHA OR LOW PAuLA TANG LAIkOW PAgMAbEDIAL LAc
RAjSArHORA DIGIT EIGHTfFIVEdOUReNINEeONEdSEVENeIXdTHREEeWOdZEROpLETTER AbBAcDAcEEcGREAT SAiHIGH CA
bHAdFAcHAcKAbHAcXAdPAbHAdRATHAfSAbHAcSAdTAbHAdYAhIaIcLAaEcLAcOW CAbHAdFAcHAcKAbHAcXAdPAbHAdRATHAfS
AcTAbHAdYAfUEdMAcNAbGAcYAdOOcRAaNAcTAdUEdUaUcWAjSIGN CAANGfDOKMAIgHANGdOYdKAANaKUUgEOWdHUEN TONE-3
b4b5h-LUE KARANpMAI KANGa LAIiSAMdYAMOKjRA HAAMgEVERSED ROTATED RANAvSAKOTdTKAANaKUUiWANfTONE-1b2g
WIANGaWAAKoTHAM DIGIT EIGHTfFIVEdOUReNINEeONEdSEVENeIXdTHREEeWOdZEROpVOWEL SIGN AaAbEbIcEbIaIcMA
I SAThOaA ABOVEfBELOWhObYcTALL AAgHAM AIhUaEbUaEtVIET LETTER HIGH BOcCHOcOcDOcFOcGOcHOcKHHOcOcOcLO
cMOcNGOcObYOdObPHOcOcROcSOcTHOcOcVOcYOhLOW BOcCHOcOcDOcFOcGOcHOcKHHOcOcOcLOcMOcNGOcObYOdObPHOcOcRO
cSOcTHOcOcVOcYOnMAI KANGdHITiSYMBOL HO HOIgKOI KOIfNdNUENGfSAMkTONE MAI EKcNUENGfSONGeTHOmVOWEL AA
bMbNbUEcYcEbIaAcObUaAbEaAqKEOUT BOXiRI ABBREVIATION SIGNrDIGIT EIGHTfFIVEdOUReNINEeONEdSEVENeIXdTH
REEeWOdZEROkLETTER AaAbIbRCHAIC KHAkUcBAbHAdCAbHAdDAbDAbHAdHAdEbGAbHAdHAcIaIcJAbHAdKAbHAdLAcMAcNAb
GAcNAcYAdObPAbHAdRAbRAdSAbHAdTAbHAcTAbHAeUaUcVAcYAjSIGN ANUSVARAiNUKTAfVIRAMAeSARGAmVOWEL SIGN AAb
IbUcEbIaIcObUaUrLLY MARK FIVEeONEmMALEdIL AND ODD SIGNlS ABOVE SIGNmU LENGTH MARKoCREDIT SIGNkURRE
NT SIGNmDAY SIGNhEBIT SIGNjIGIT EIGHTfFIVEdOUReNINEeONEdSEVENeIXdTHREEeWOdZEROjRY CULTIVATION SIGN
uFRACTION DOWNSCALING FACTOR KIIZHyONE EIGHTHbIETHjFIFTHeORTIETHiHALF-1b2gONE-HUNDRED-AND-SIXTIETH
yQUARTERhSIXTEENTH-1b2hY-FOURTHmTENTHeHIRTY-SECONDlREE-HUNDRED-AND-TWENTIETHzbWENTIETHnTHREE EIGHT
IETHSkQUARTERSiSIXTEENTHSgY-FOURTHSnTWENTIETHSzaIN POSSESSION SIGNsLAND SIGNiETTER AaAbIbUcCAcEaEc
HAcIaIcJAcKAcLAbLAbLAeMAcNAbGAcNAbNAdYAdOaOcPAcRAbRAdSAbHAcSAdTAbTAdUaUcVAcYAjMONTH SIGNkNUMBER ON
E HUNDREDhTHOUSANDmSIGNeTENkOMcPUNCTUATION END OF TEXTxRUPEE SIGNkSALT PAN SIGNmIGN AAZHAAKKUiNUSV
ARAiCEVITUgKAACUeURUNIeZHIfMUKKURUNIhTHALIYAhUVUZHAKKUlNELdPAARAMeNAMdTHAKKUhONdUZHAKKUhVAKAIYARAA
iRAAKANhELIdIRAMAeSARGAlPENT SIGNjTARTING FROM SIGNsTOTAL SIGNjRADITIONAL CREDIT SIGNlNUMBER SIGNx
VOWEL SIGN AAbIbUcEaEcIaIcOaOcUaUnWET CULTIVATION SIGNuYEAR SIGNnNABATA TREEkGERINEfSA DIGIT EIGHT
fFIVEdOUReNINEeONEdSEVENeIXdTHREEeWOdZEROkLETTER ACbQbWCbQbXbZcXbZcBAcCAbHAdDAbHAdECbQbXbZcFAbINA
L NGiGAbHAdHAbTAbTAeICbQbXbZcKAbHAdLAbONG UEXiMAbCbQbXbZcNAbGAcHAcYAdOCbQbXbZcPAbHAdRAcSAbHAbORT A
WXdUEZjTAbHAcSAdUCbECbQbXbZcICbQbUCbQbXbZcXbZcQbXbZcVCbQbXbZcWAcXAcYAcZAmUT COMPONENT-001b2b3b4b5b
6b7b8b9c10b1b2b3b4b5b6b7b8b9c20b1b2b3b4b5b6b7b8b9c30b1b2b3b4b5b6b7b8b9c40b1b2b3b4b5b6b7b8b9c50b1b2
b3b4b5b6b7b8b9c60b1b2b3b4b5b6b7b8b9c70b1b2b3b4b5b6b7b8b9c80b1b2b3b4b5b6b7b8b9c90b1b2b3b4b5b6b7b8b9
d100b1b2b3b4b5b6b7b8b9c10b1b2b3b4b5b6b7b8b9c20b1b2b3b4b5b6b7b8b9c30b1b2b3b4b5b6b7b8b9c40b1b2b3b4b5
b6b7b8b9c50b1b2b3b4b5b6b7b8b9c60b1b2b3b4b5b6b7b8b9c70b1b2b3b4b5b6b7b8b9c80b1b2b3b4b5b6b7b8b9c90b1b
2b3b4b5b6b7b8b9d200b1b2b3b4b5b6b7b8b9c10b1b2b3b4b5b6b7b8b9c20b1b2b3b4b5b6b7b8b9c30b1b2b3b4b5b6b7b8
b9c40b1b2b3b4b5b6b7b8b9c50b1b2b3b4b5b6b7b8b9c60b1b2b3b4b5b6b7b8b9c70b1b2b3b4b5b6b7b8b9c80b1b2b3b4b
5b6b7b8b9c90b1b2b3b4b5b6b7b8b9d300b1b2b3b4b5b6b7b8b9c10b1b2b3b4b5b6b7b8b9c20b1b2b3b4b5b6b7b8b9c30b
1b2b3b4b5b6b7b8b9c40b1b2b3b4b5b6b7b8b9c50b1b2b3b4b5b6b7b8b9c60b1b2b3b4b5b6b7b8b9c70b1b2b3b4b5b6b7b
8b9c80b1b2b3b4b5b6b7b8b9c90b1b2b3b4b5b6b7b8b9d400b1b2b3b4b5b6b7b8b9c10b1b2b3b4b5b6b7b8b9c20b1b2b3b
4b5b6b7b8b9c30b1b2b3b4b5b6b7b8b9c40b1b2b3b4b5b6b7b8b9c50b1b2b3b4b5b6b7b8b9c60b1b2b3b4b5b6b7b8b9c70
b1b2b3b4b5b6b7b8b9c80b1b2b3b4b5b6b7b8b9c90b1b2b3b4b5b6b7b8b9d500b1b2b3b4b5b6b7b8b9c10b1b2b3b4b5b6b
7b8b9c20b1b2b3b4b5b6b7b8b9c30b1b2b3b4b5b6b7b8b9c40b1b2b3b4b5b6b7b8b9c50b1b2b3b4b5b6b7b8b9c60b1b2b3
b4b5b6b7b8b9c70b1b2b3b4b5b6b7b8b9c80b1b2b3b4b5b6b7b8b9c90b1b2b3b4b5b6b7b8b9d600b1b2b3b4b5b6b7b8b9c
10b1b2b3b4b5b6b7b8b9c20b1b2b3b4b5b6b7b8b9c30b1b2b3b4b5b6b7b8b9c40b1b2b3b4b5b6b7b8b9c50b1b2b3b4b5b6
b7b8b9c60b1b2b3b4b5b6b7b8b9c70b1b2b3b4b5b6b7b8b9c80b1b2b3b4b5b6b7b8b9c90b1b2b3b4b5b6b7b8b9d700b1b2
b3b4b5b6b7b8b9c10b1b2b3b4b5b6b7b8b9c20b1b2b3b4b5b6b7b8b9c30b1b2b3b4b5b6b7b8b9c40b1b2b3b4b5b6b7b8b9
c50b1b2b3b4b5b6b7b8b9c60b1b2b3b4b5b6b7b8nITERATION MARKtPE CARTRIDGEjDRIVEiURUSeXIdEACUP WITHOUT H
ANDLEsPOTdR-OFF CALENDARnDROP-BARBED RIGHTWARDS ARROWxSPOKED ASTERISKwDDY BEARiLEPHONE LOCATION SI
GNnON TOP OF MODEMpRECEIVERa WITH PAGEpORDERiSIGNkSCOPEfVISIONhUGU AI LENGTH MARKoDIGIT EIGHTfFIVE
dOUReNINEeONEdSEVENeIXdTHREEeWOdZEROkFRACTION DIGIT ONE FOR EVEN POWERS OF FOURtODD POWERS OF FOUR
zbTHREE FOR EVEN POWERS OF FOURtODD POWERS OF FOURzcWO FOR EVEN POWERS OF FOURtODD POWERS OF FOURz
bZERO FOR ODD POWERS OF FOURzrLENGTH MARKjTTER AaAbIbUcBAbHAdCAbHAdDAbDAbHAdHAcZAdEaEcGAbHAdHAcIaI
cJAbHAdKAbHAdLAbLAbLAeMAcNAaKAARA POLLUmGAcNAcYAdOaOcPAbHAdRAbRAbRAeSAbHAcSAdTAbHAcSAcTAbHAeUaUcVA
bOCALIC LaLcRaRkYAjSIGN ANUSVARAhVAGRAHAiCANDRABINDUkOMBINING ANUSVARA ABOVEoCANDRABINDU ABOVEzcNU
KTAfSIDDHAMhTUUMUfVIRAMAeSARGAmVOWEL SIGN AAbIbUcEaEcIaIcOaOcUaUcVOCALIC LaLcRaRzbNGE SIGNhNIS RAC
QUET AND BALLuTcST TUBEhTRAGRAM FOR ACCUMULATIONlDVANCEgGGRAVATIONkSCENTgBARRIERgOLD RESOLUTIONoRA
NCHING OUTnCENTREfHANGEfLOSED MOUTHhNESSfUREgOMPLETIONfIANCEiNSTANCYgTACTdENTIONgRARIETYlDARKENING
iECISIVENESSkFECTIVENESS OR DISTORTIONzaPARTUREiIFFICULTIESkMINISHMENTjMINGfVERGENCEjOUBTeUTIESgEA
SEdMBELLISHMENTmNCOUNTERSiDEAVOURhLARGEMENTkTERNITYhXHAUSTIONkFAILUREgLIGHTfOLLOWINGhSTERINGiULL C
IRCLEhNESSiGATHERINGa INlOING TO MEETmREATNESSiUARDEDNESSlHARDNESShOLDING BACKmINCREASEgNERfJOYdKE
EPING SMALLmINSHIPhLABOURINGhW OR MODELlEGIONgMASSINGgEASUREgIREDfON THE VERGElPPOSITIONkPACKINGfT
TERNgENETRATIONkURITYgREACHdLEASEfSIDENCEfSTANCEhPONSEhITUALgSEVERANCEiINKINGgTOPPAGEfVEdRENGTHiUN
ITYfVASTNESS OR WASTINGtWAITINGfTCHfYOUTHFULNESSzaHAANA AABAAFILIiBAFILIhEBEFILIgEBEEFILIiYBEYFILI
jIBIFILIhLETTER AINUdLIFUfBAAdCHAVIYANIjDAADHUeVIYANIhHAALUgFAAFUfGAAFUeHAINUfNAVIYANIjHAAcHAAeJAV
IYANIiKAAFUeHAAeLAAMUeHAVIYANIjMEEMUfNAAcOONUfPAVIYANIiQAAFUfRAAdSAADHUfEENUeHAVIYANIhEENUgTAVIYAN
IhHAAaLUfObTAAeVAAVUfWAAVUfYAAdZAAbVIYANIhOjOABOAFILIiBOFILIgOBOOFILIjSUKUNfUBUFILIlI CHARACTER AN
GKHANKHUkBO BAIMAIjCHO CHANaGdINGdOEiDO CHADAfDEKgFO FAaNeNGMANhHO HIPdNOKHUKjKHO KHAIcONcUATdWAIf
RAKHANGiMUTfO KAIgLAKKHANGYAOkO CHULAfLINGgUcMAI CHATTAWAiEKcHAN-AKATiTHOcRIeTAIKHUgYAMOKhO MAfNG
O NGUgIKHAHIThO NENcUfO ANGfPAIYANNOIiHINTHUfO PHANcUNGfSAMPHAOkO PLAgRO RUAfUcSARA AaAbEbI MAIMAL
AIeUANjMcEbIaIcObUaEaEcUgO RUSIeSALAdObUAgTHANTHAKHATjO NANGMONTHOkPHUTHAOhTHAHANdNcONGdUNGiO PATA
KfTAOgWO WAENhYAMAKKANhO YAKcINGqURRENCY SYMBOL BAHTuDIGIT EIGHTfFIVEdOUReNINEeONEdSEVENeIXdTHREEe
WOdZEROnERE DOES NOT EXISToEXISTShFOREfMODYNAMIChMETERjIN GREEK CROSSlSALTIREgPACEgKING FACEkRD PL
ACE MEDALpONG SANDALjUGHT BALLOONnREE BUTTON MOUSEmCONSECUTIVE EQUALS SIGNSyDIMENSIONAL ANGLEqOT P
UNCTUATIONpLEFTWARDS ARROWSpINES CONVERGING LEFTeRIGHTwNETWORKED COMPUTERStPOINTED BLACK STARsRAY
S ABOVEfBELOWfLEFTeRIGHTjIGHTWARDS ARROWSrSPEECH BUBBLESp-D BOTTOM-LIGHTED RIGHTWARDS ARROWHEADzkL
EFT-LIGHTED DOWNWARDS EQUILATERAL ARROWHEADztRIGHT-LIGHTED UPWARDS EQUILATERAL ARROWHEADzsTOP-LIGH
TED LEFTWARDS EQUILATERAL ARROWHEADzgRIGHTWARDS ARROWHEADjEQUILATERAL ARROWHEADzvEM DASHhPER-EM SP
ACEqUMBS DOWN SIGNjUP SIGNlNDER CLOUD AND RAINpSTORMlIBETAN ASTROLOGICAL SIGN -KHYUD PAjSDONG TSHU
GSlGRA GCAN -CHAR RTAGSzoCANTILLATION SIGN CANG TE-UjHEAVY BEATkLIGHT BEATkSBUB -CHALzdDIGIT EIGHT
fFIVEdOUReHALF EIGHTfFIVEdOUReNINEeONEdSEVENeIXdTHREEeWOdZEROjNINEeONEdSEVENeIXdTHREEeWOdZEROkKU R
U KHAa BZHI MIG CANwLETTER -AcAbBAbHAdCAbHAdDAbDAbHAdHAcZAbHAeFIXED-FORM RAnGAbHAdHAcJAcKAbHAcKAcS
SAeLAcMAcNAbGAcNAcYAdPAbHAdRAbRAdSAbHAcSAdTAbHAcSAbHAdTAbHAeWAcYAcZAbHAjOGOTYPE SIGN CHAD RTAGSkLH
AG RTAGSyMARK ANG KHANG GYAScONoBKA- SHOG GI MGO RGYANmYIG MGOqSDUS RTAGSjKA- SHOG GI MGO RGYANuU
R YIG MGOnCARET -DZUD RTAGS BZHI MIG CANmME LONG CANxYIG MGO PHUR SHAD MAzaHE MGOgLOSING BRDA RNYI
NG YIG MGO SGAB MAzcYIG MGO SGAB MAxDELIMITER TSHEG BSTARvGTER TSHEGfYIG MGO -UM GTER TSHEG MAnRNA
M BCAD MAqTRUNCATED AxUG RTAGS GYAScONoHALANTAhINITIAL BRDA RNYING YIG MGO MDUN MAzcYIG MGO MDUN M
AvTERSYLLABIC TSHEGtLEADING MCHAN RTAGStMNYAM YIG GI MGO RGYANwNGAS BZUNG NYI ZLAhSGOR RTAGSuYIS S
HADeTSHEGa SHADpPALUTAgRGYA GRAM SHADnIN CHEN SPUNGS SHADuSBRUL SHADjHADeTRAILING MCHAN RTAGStSA -
PHRUhHEG SHADkYIG MGO TSHEG SHAD MAzbSIGN GRU CAN RGYINGSlMED RGYINGSpINVERTED MCHU CANrLCE TSA CA
NjI RTAGSjMAR TSHESiCHU CANiNYI ZLA NAA DAoRDEL DKAR GCIGdNYISeSUMeRDEL NAGnNAG GCIGdNYISeSUMeRDE
L DKARrJES SU NGA ROnNAM BCADjSNA LDANiYANG RTAGSiR TSHESnUBJOINED LETTER -AcAbBAbHAdCAbHAdDAbDAbH
AdHAcZAbHAeFIXED-FORM RAcWAcYAnGAbHAdHAcJAcKAbHAcSSAeLAcMAcNAbGAcNAcYAdPAbHAdRAcSAbHAcSAdTAbHAcSAb
HAdTAbHAeWAcYAcZAbHAkSIGN INVERTED MCHU CANrLCE TSA CANlMCHU CANwYLLABLE OMjMBOL DRIL BUhNOR BUa B
ZHI -KHYILlGSUM -KHYILlNYIS -KHYILsPADMA GDANjHUR PAhRDO RJEa RGYA GRAMyVOWEL SIGN AAcEaEcIaIcOaOc
REVERSED IaIlUaUcVOCALIC LaLcRaRzcCKETeE OVER INFINITYpFINAGH CONSONANT JOINERqLETTER AHAGGAR YAZH
lYER YAGHjBERBER ACADEMY YAHbJsTAWELLEMET YAZnUAREG YAGHbNcHbKaHcNGcQbZHlYAaAbBaHcCHcDaDaHcHcFbGaH
aHdHaHcJbKaHaHdLbMbNbPbQbRaRcSaHbScTaHbTcVbWbYbZaHbZdEaYcIbObUjMODIFIER LETTER LABIALIZATION MARKz
jSEPARATOR MARKvGERa FACEhHT TRIFOLIATE SNOWFLAKEyLDEa OPERATORa ABOVE LEFTWARDS ARROWpRIGHTWARD
S ARROWwWITH DOT ABOVEjRISING DOTSzaWITH DOT ABOVEfBELOWjRING ABOVEtMER CLOCKhS WITH LEFT HALF BLA
CKpRIGHT HALF BLACKzaNYa TWO DOTS OVER ONE DOT PUNCTUATIONzlRED FACEhHUTA ABBREVIATION SIGNqNJIeDI
GIT EIGHTfFIVEdOUReNINEeONEdSEVENeIXdTHREEeWOdZEROkGVANGfLETTER AaAbIbUcBAbHAdCAbHAdDAbDAbHAdHAdEb
GAbHAdHAcIaIcJAbHAdKAbHAdLAcMAcNAbGAcNAcYAdObPAbHAdRAcSAbHAcSAdTAbHAcTAbHAeUaUcVAbOCALIC LaLcRaRkY
AjOMcSIGN ANUSVARAhVAGRAHAiCANDRABINDUlNUKTAfVIRAMAeSARGAmVOWEL SIGN AAbIbUcEbIaIcObSHORT EbOhUaUc
VOCALIC LaLcRaRzbONIAN SIGN CAPITAL ETkETpOILETeKYO TOWERjMATOeNGUEeOLBOXeTHaBRUSHiP ARC ANTICLOCK
WISE ARROWa WITH PLUSzeCLOCKWISE ARROW WITH MINUSzfCURLY BRACKETnHALF BLACK CIRCLEmINTEGRALiLEFT P
ARENTHESISqRIGHT PARENTHESISrSECTION SIGNpTdLEFT CORNERfROPeHALF BRACKETrPARENTHESISlRIGHT CORNERf
ROPeHALF BRACKETsSQUARE BRACKEToTORTOISE SHELL BRACKETwWITH UPWARDS ARROW ABOVEzbRTOISE SHELL BRAC
KETED CJK UNIFIED IDEOGRAPH-4E09c8Ce52DDdB89e6253d557d72Ce70B9d6D7zbLATIN CAPITAL LETTER SzuTAL RU
NOUTjO LETTER AaEcBAbREATHY AEcEaOcIaUkCHAdDAcEaOcGAcHAcIaUcJAcKAcLAcMAcNAbGAdObPAcRAcSAcTAcUbWAcY
AjSIGN RISING TONEuRACKBALLfTOReDE MARK SIGNmINcMa CARfNSPLUTOfVERSAL INTERSECTIONwIANGLE WITH DO
T ABOVEjROUNDED CORNERSpSERIFS AT BOTTOMqUNDERBARo-HEADED RIGHTWARDS ARROWzbULAR BULLETgFLAG ON PO
STmRULERnCOLONfDENT EMBLEMlGRAM FOR EARTHfFIREeHEAVENgLAKEeMOUNTAINiTHUNDERhWATEReINDnPLE COLON OP
ERATORoDAGGERgHORIZONTAL BAR WITH DOUBLE VERTICAL STROKEwTRIPLE VERTICAL STROKEzrINTEGRALiNESTED G
REATER-THANmLESS-THANqPLUSdRIMEfSOLIDUS BINARY RELATIONxTILDEfVERTICAL BAR BINARY RELATIONpDELIMIT
ERjRIGHT TURNSTILEpWITH HORIZONTAL STROKEzpOLLaEYBUShPHYcICAL DRINKfFISHlUEa LIGHT MOON ARTArMPETg
UGRIK SIGNjLIPdMBLER GLASSlRKEYcISH LIRA SIGNoNED AMPERSANDiNGLEfBLACK PENTAGONiSHOGI PIECErCAPITA
L FiOMMAfDAGGERfIGIT THREEeWOjGREEK SMALL LETTER IOTAxNORTH EAST POINTING LEAFsWEST POINTING LEAFw
T SIGNiOK HAND SIGNmSANS-SERIF CAPITAL GbLbYtEMICOLONiMALL FgOUTH EAST POINTING LEAFsWEST POINTIN
G LEAFyWHITE SHOGI PIECEvTLEfWELVE POINTED BLACK STARxISTED RIGHTWARDS ARROWSxO ASTERISKS ALIGNE
D VERTICALLYzdBUTTON MOUSEmCONSECUTIVE EQUALS SIGNSyDOT LEADERgPUNCTUATIONmS OVER ONE DOT PUNCTUAT
IONzeHEARTSgINTERSECTING LOGICAL ANDdORxJOINED SQUARESoLOGICAL AND OPERATORmOR OPERATORtMEN HOLDIN
G HANDSrSPEECH BUBBLESoWOMEN HOLDING HANDSu-EM DASHlUGARITIC LETTER AINcLPAeBETAeDELTAeHALeGAMLAeH
AINfHOaTAeIbKAFcHAdLAMDAfMEMdNUNdPUcQOPAeRASHAfSADEcMKAeHINdSUdTETcHANNAfOcUbWOcYODdZETAdUjWORD DI
VIDERuMBRELLAa ON GROUNDjWITH RAIN DROPSxNAMUSED FACElCERTAINTY SIGNoDERTIEfO SYMBOLjICORN FACEjON
a ABOVE BAR ABOVE INTERSECTIONwINTERSECTIONsBESIDE AND JOINED WITH UNIONzdWITH LOGICAL ORkMINUS SI
GNkOVERBARpT SEPARATORkED SYMBOLkVERSAL RECYCLING SYMBOLyMARRIED PARTNERSHIP SYMBOLzcP ARROW THROU
GH CIRCLEpHEADa BETWEEN TWO HORIZONTAL BARSzcIN A RECTANGLE BOXzdBARB LEFT DOWN BARB LEFT HARPOONm
RIGHT HARPOONzdRIGHT DOWN BARB LEFT HARPOONmRIGHT HARPOONzjDOWN ARROWa WITH BASEpBLACK ARROWlDOUBL
E ARROWmSANS-SERIF ARROWqTRIANGLE-HEADED ARROWvWHITE ARROWqFISH TAILjRIGHT DIAGONAL ELLIPSISxTACK
a WITH CIRCLE ABOVEx-POINTING AIRPLANEiMILITARY AIRPLANErRED TRIANGLEmSMALL AIRPLANEiRED TRIANGLEs
TRIANGLE WITH LEFT HALF BLACKpRIGHT HALF BLACKzpPER AND LEFT AND LOWER TRIANGULAR THREE QUARTERS B
LOCKzuOWER ONE EIGHTH BLOCKqTRIANGULAR HALF BLOCKzcRIGHT AND LOWER TRIANGULAR THREE QUARTERS BLOCK
zzbBLADE SCISSORSoFIVE EIGHTHS BLOCKsHALF BLOCKa AND LOWER HALF INVERSE MEDIUM SHADEzqCIRCLEgINVER
SE MEDIUM SHADE AND LOWER HALF BLOCKziWHITE CIRCLEuMEDIUM SHADErLEFT BLOCK DIAGONAL LOWER CENTRE T
O LOWER MIDDLE RIGHTsUPPER MIDDLE RIGHTmRIGHTvLEFT TO LOWER MIDDLE RIGHTsUPPER CENTREgMIDDLE RIGHT
zbMIDDLE LEFT TO UPPER CENTREgMIDDLE RIGHTmRIGHTzhUPPER MIDDLE LEFT TO UPPER CENTREgRIGHTzwCORNE
R WITH DOTpOR LOWER RIGHT CURLY BRACKET SECTIONzlQUADRANT CIRCULAR ARCvTO LOWER RIGHT FILLsRIANGLE
cULAR MEDIUM SHADEzdONE EIGHTH BLOCKmQUARTER BLOCKrRIGHT BLOCK DIAGONAL LOWER MIDDLE LEFT TO LOWE
R CENTREgRIGHTzhUPPER CENTRE TO LOWER MIDDLE RIGHTmRIGHTlUPPER MIDDLE RIGHTzdLEFT TO LOWER CENTREg
MIDDLE RIGHTsUPPER MIDDLE RIGHTzbMIDDLE LEFT TO LOWER CENTREgMIDDLE RIGHTmRIGHTzwDROP-SHADOWED WHI
TE SQUAREzbOR LOWER LEFT CURLY BRACKET SECTIONzkPENCILgQUADRANT CIRCULAR ARCvSHADOWED WHITE CIRCLE
gSQUAREvTO LOWER LEFT FILLrRIANGLEcULAR MEDIUM SHADEzeSEVEN EIGHTHS BLOCKtTHREE EIGHTHS BLOCKnQUAR
TERS BLOCKtRIANGULAR ONE QUARTER BLOCKzhSIDE-DOWN FACEoWARDS ANCORAfRROWa AND RIGHT ONE EIGHTH BLO
CKzbFROM BARiLEFTWARDS OF DOWNWARDS ARROWzdTO BARgWITH DOUBLE STROKEnEQUILATERAL ARROWHEADvHORIZON
TAL STROKErLARGE TRIANGLE ARROWHEADyMEDIUM TRIANGLE ARROWHEADzaNOTCHED TAILmSMALL EQUILATERAL ARRO
WHEADvTRIANGLE ARROWHEADyTIP LEFTWARDSjRIGHTWARDSzaBLACK ARROWfCIRCLED WHITE ARROWzaCOMPRESSED ARR
OWqDASHED ARROWlOUBLE ARROWmFINGER-POST ARROWrHARPOON WITH BARB LEFT BESIDE DOWNWARDS HARPOON WIT
H BARB RIGHTziUPWARDS HARPOON WITH BARB RIGHTznFROM BARiTO BARhWARDSjRIGHT FROM BARiTO BARhWARDSzc
EAVY ARROWfCOMPRESSED ARROWwPAIRED ARROWSnQUADRUPLE ARROWpROCKETgSANS-SERIF ARROWpQUARED ARROWnTRI
ANGLE ARROWHEADk-HEADED ARROWa LEFTWARDS OF DOWNWARDS TRIANGLE-HEADED ARROWztTO BARgWITH BOLD SHAF
TkDOUBLE HORIZONTAL STROKEyHEAVY SHAFTlLONG TIP LEFTWARDSjRIGHTWARDStMEDIUM SHAFTmNARROW SHAFTmVER
Y HEAVY SHAFTzcDASHED ARROWmPAIRED ARROWSzbPLE ARROWlWO HEADED ARROWn-HEADED ARROW FROM SMALL CIRC
LErWITH TRIANGLE ARROWHEADSzqWHITE ARROWa FROM BARa WITH HORIZONTAL BARzdON PEDESTALa WITH HORIZON
TAL BARoVERTICAL BARzeWITHIN TRIANGLE ARROWHEADzgDOUBLE ARROWa ON PEDESTALzmRANUSfScVAI COMMAfDIGI
T EIGHTfFIVEdOUReNINEeONEdSEVENeIXdTHREEeWOdZEROkFULL STOPjQUESTION MARKnSYLLABLE AaNcBAbEaEcHAbEa
EcIbOaOcUcIbOaOcUcCAbEaEcIbOaOcUcDAbEaEcHAbEaEcHAbEaEcIbOaOcUcIbOaOcUcIbOaOcUcEaEaNcNcFAbEaEcIbOaO
cUcGAbBAbEaEbNcIbOaNbOcUcEaEbNcIbOaOcUcHAaNcEaEbNcIaNcOaNbOcUaNdIaNcJAbEaEcIbOaOcUcKAaNcEaEcIbOaOc
PAaNcEaEbNcIbOaOcUcUcLAbEaEbNGTHENERjIbOaOcUcMAbBAbEaEcIbOaOcUcEaEcGBAbEaEcIbOaOcUdIbOaOcUcNAbDAbE
aEcIbOaLE DOcFAcKAcMAcSOOgOcUcEaEcGaANcENcGAbEaEbNcIbOaOcUcONdIbJAbEaEcIbOaOcUcOaOcUbYAbEaEcIbOaOc
UdOaNbOaNdPAbEaEcIbOaOcUcRAbEaEcIbOaOcUcSAbEaEcHAbEaEcIbOaOcUcIbOaOcUcTAbEaEcHAbEaEcIbOaOcUcIbOaOc
UcUaNcVAbEaEcIbOaOcUcWAaNcEaEaNcNcIaNcOaNbOaNdUaNdYAbEaEcIbOaOcUcZAbEaEcHAbEaEcIbOaOcUcIbOaOcUjMBO
L BANGeDANGdO-OcONGfFAAcEENGfJONGeKEENGeUNGeNIIdTAAcINGdONGnMPIREfRIATION SELECTOR-1a0a0b1b2b3b4b5
b6b7b8b9c1a0b1b2b3b4b5b6b7b8b9c2a0b1b2b3b4b5b6b7b8b9c3a0b1b2b3b4b5b6b7b8b9c4a0b1b2b3b4b5b6b7b8b9c5
a0b1b2b3b4b5b6b7b8b9c6a0b1b2b3b4b5b6b7b8b9c7a0b1b2b3b4b5b6b7b8b9c8a0b1b2b3b4b5b6b7b8b9c9a0b1b2b3b4
b5b6b7b8b9d2a0a0b1b2b3b4b5b6b7b8b9c1a0b1b2b3b4b5b6b7b8b9c2a0b1b2b3b4b5b6b7b8b9c3a0b1b2b3b4b5b6b7b8
b9c4a0b1b2b3b4b5b6b7b8b9c5a0b1b2b3b4b5b6c6b7b8b9c3a0b1b2b3b4b5b6b7b8b9c4a0b1b2b3b4b5b6b7b8b9c5a0b1
b2b3b4b5b6b7b8b9c6a0b1b2b3b4b5b6b7b8b9c7a0b1b2b3b4b5b6b7b8b9c8a0b1b2b3b4b5b6b7b8b9c9a0b1b2b3b4b5b6
b7b8b9uECTOR OR CROSS PRODUCTvDIC SIGN ANUSVARA ANTARGOMUKHAmBAHIRGOMUKHAmUBHAYATO MUKHAoVAMAGOMUK
HAa WITH TAILzeRDHAVISARGAlTIKRAMAiDOUBLE ANUSVARA ANTARGOMUKHAzdHEXIFORM LONG ANUSVARAwJIHVAMULIY
AlLONG ANUSVARAnNIHSHVASAjREVERSED VISARGA ANUDATTAiUDATTAwOTATED ARDHAVISARGAtTHANG LONG ANUSVARA
uTIRYAKgUPADHMANIYAlVISARGA ANUDATTAa WITH TAILsSVARITAhUDATTAa WITH TAILyYAJURVEDIC MIDLINE SVARI
TAzgTONE ATHARVAVEDIC INDEPENDENT SVARITAzhCANDRA ABOVEfBELOWmDOT BELOWhUBLE RING ABOVEkSVARITAoKA
RSHANAgTHAKA ANUDATTAqPRENKHAhRIGVEDIC KASHMIRI INDEPENDENT SVARITAzkNG ABOVEkSHARAfTHREE DOTS BEL
OWpRIPLE SVARITAnWO DOTS BELOWoYAJURVEDIC AGGRAVATED INDEPENDENT SVARITAzfINDEPENDENT SVARITAtKATH
AKA INDEPENDENT SVARITAa SCHROEDERzzhRSICLEfTICAL BAR BESIDE RIGHT TRIANGLEvDOUBLE LEFT TURNSTILEv
TRIPLE RIGHT TURNSTILEwWITH HORIZONTAL STROKEzbELLIPSISiFOUR DOTSjIDEOGRAPHIC ITERATION MARKzbKAN
A REPEAT MARKa LOWER HALFkUPPER HALFpWITH VOICED SOUND MARKa UPPER HALFzuLINEa EXTENSIONjWITH CIRC
LE ABOVEfBELOWmMIDDLE DOTuMALE WITH STROKE SIGNvONE EIGHTH BLOCK-2b3b4b5b6b7sSIX DOTSiTAB KEYeULAT
IONa SETnILDEeRAFFIC LIGHTnZIGZAG LINErY BOLD GREEK CROSSqHEAVY EIGHT POINTED BLACK STARsSPOKED AS
TERISKvFIVE SPOKED ASTERISKuGREEK CROSSlREVERSE SOLIDUSpSALTIREgIX SPOKED ASTERISKsOLIDUShWHITE CI
RCLEgSQUAREsMUCH GREATER-THANmLESS-THANrSTAeIBRATION MODEmCTORY HANDkDEO CAMERAgGAMEfCASSETTElETNA
MESE ALTERNATE READING MARK CAcNHAYzkWDATA SQUAREnOLINeRGOdTHKUQI CAPITAL LETTER AbBBEcEcCEbHEdDEb
HEdEaIcFEcGAcHAbHAdIaJEdJEcKAcLAbLAdMEcNEbJEdObPEcQAcREcSEbHEdTEbHEdUbVEcXEcYbZErSMALL LETTER AbBB
EcEcCEbHEdDEbHEdEaIcFEcGAcHAbHAdIaJEdJEcKAcLAbLAdMEcNEbJEdObPEcQAcREcSEbHEdTEbHEdUbVEcXEcYbZExOIDE
D GREEK CROSSqLCANOeLEYBALLhUME INTEGRALoS1a0a0b1b2b3b4b5b6b7b8b9c1a0b1b2b3b4b5b6b7b8b9c2a0b1b2b3b
4b5b6b7b8b9c3a0b1b2b3b4b5b6b7b8b9c4a0b1b2b3b4b5b6b7b8b9c5a0b1b2b3b4b5b6b7b8b9c6a0b1b2b3b4b5b6b7b8b
9c7a0b1b2b3b4b5b6b7b8b9c8a0b1b2b3b4b5b6b7b8b9c9a0b1b2b3b4b5b6b7b8b9d2a0a0b1b2b3b4b5b6b7b8b9c1a0b1b
2b3b4b5b6b7b8b9c2a0b1b2b3b4b5b6b7b8b9c3a0b1b2b3b4b5b6b7b8b9c4a0b1b2b3b4b5b6b7b8b9c5a0b1b2b3b4b5b6c
6b7b8b9c3a0b1b2b3b4b5b6b7b8b9c4a0b1b2b3b4b5b6b7b8b9c5a0b1b2b3b4b5b6b7b8b9c6a0b1b2b3b4b5b6b7b8b9c7a
0b1b2b3b4b5b6b7b8b9c8a0b1b2b3b4b5b6b7b8b9c9a0b1b2b3b4b5b6b7b8b9dTaScULCANUSfGAR FRACTION FIVE EIGH
THShSIXTHSkOUR FIFTHSlONE EIGHTHgFIFTHfHALFeNINTHfQUARTERhSEVENTHgIXTHfTENTHeHIRDjSEVEN EIGHTHSnTH
REE EIGHTHShFIFTHSgQUARTERSnWO FIFTHSgTHIRDSkZERO THIRDSzcWAFFLEeNCHO DIGIT EIGHTfFIVEdOUReNINEeON
EdSEVENeIXdTHREEeWOdZEROkLETTER AaAaNaGdNGcUcBAcCAcDAcEaNcFAcGAcHAcIaNGdJAcKAbHAdLAbLHAeMAcNAbGAcY
AdOaNaGdPAbHAdRAcSAbHAdTAbHAcRAcSAdUaENdVAcWAcYAbIHdZAjNGUN SIGNjTONE KOIaNIfTUPaNIoING CRESCENT M
OON SYMBOLuGIBBOUS MOON SYMBOLyRANG CITI CAPITAL LETTER AaMbNGcTcBUcDAcEaNNbYdGAcHARcIYOdOLOcRReII
cKOcNGAAdUNGeOaDDdPUcSIIcSUUeTTEdUCbUcVIYOeWIcYAbObUaJsDIGIT EIGHTfFIVEdOUReNINEeONEdSEVENeIXdTHRE
EeWOdZEROkNUMBER EIGHTYgFIFTYeORTYfNINETYgSEVENTYgIXTYfTENcHIRTYfWENTYnOMcSMALL LETTER AaMbNGcTcBU
cDAcEaNNbYdGAcHARcIYOdOLOcRReIIcKOcNGAAdUNGeOaDDdPUcSIIcSUUeTTEdUCbUcVIYOeWIcYAbObUaJzaNING SIGNkS
TEBASKETjTCHcER BUFFALOhCLOSETgPOLOeWAVEfMELONiVE ARROW POINTING DIRECTLY LEFTeRIGHTzeDASHgING BLA
CK FLAGkHAND SIGNjWHITE FLAGoY DASHeLINEdOW LINEiOVERLINElXING CRESCENT MOON SYMBOLuGIBBOUS MOON S
YMBOLzaEARY CAT FACEiFACEiDDINGeGE-TAILED RIGHTWARDS ARROWzcIERSTRASS ELLIPTIC FUNCTIONzbGHT LIFTE
RlST SYRIAC CROSSqHALEdEELa OF DHARMAkCHAIR SYMBOLpITE ARROW SHAFT WIDTH ONEdTWO THIRDSzdBULLETgCH
ESS BISHOPa ROTATED NINETY DEGREESoTWO HUNDRED SEVENTY DEGREESzrEQUIHOPPERa ROTATED NINETY DEGREES
ziKINGa ROTATED NINETY DEGREESoTWO HUNDRED SEVENTY DEGREESzoNIGHTa ROTATED FORTY-FIVE DEGREESsNINE
TY DEGREESoONE HUNDRED THIRTY-FIVE DEGREESzgTHREE HUNDRED FIFTEEN DEGREESzdWO HUNDRED SEVENTY DEGR
EESpTWENTY-FIVE DEGREESzp-BISHOPgQUEENfROOKlPAWNa ROTATED NINETY DEGREESoTWO HUNDRED SEVENTY DEGRE
ESzpQUEENa ROTATED NINETY DEGREESoTWO HUNDRED SEVENTY DEGREESzqROOKa ROTATED NINETY DEGREESoTWO HU
NDRED SEVENTY DEGREESzpTURNED BISHOPgKINGdNIGHTgPAWNeQUEENfROOKqIRCLEa CONTAINING BLACK SMALL CIRC
LEzeWITH DOT RIGHThWN ARROWkLOWER LEFT QUADRANTnRIGHT QUADRANTuTWO DOTSiUPPER LEFT QUADRANTnRIGH
T QUADRANTzgLUB SUITiONCAVE-SIDED DIAMONDa WITH LEFTWARDS TICKoRIGHTWARDS TICKzrDIAMONDa CONTAININ
G BLACK MEDIUM DIAMONDoSMALL DIAMONDnVERY SMALL DIAMONDzkIN SQUAREjSUITeWITH CENTRED DOTxOWN POINT
ING BACKHAND INDEXoINDEXfLEFT HAND INDEXza-POINTING SMALL TRIANGLEoTRIANGLEvRAUGHTS KINGeMANmEXCLA
MATION MARK ORNAMENTzaFLAGa WITH HORIZONTAL MIDDLE BLACK STRIPEznORETTEfWERfOUR POINTED CUSPeSTARq
ROWNING FACEnHARD SHELL FLOPPY DISKvEARTa SUIThVY CHECK MARKkSALTIRE WITH ROUNDED CORNERSzhXAGONgO
RIZONTAL ELLIPSEqURGLASSjLARGE SQUAREkTIN CROSSkEFT LANE MERGEkPOINTING BACKHAND INDEXoINDEXp-POIN
TING POINTERhSMALL TRIANGLEoTRIANGLEvOZENGE CONTAINING BLACK SMALL LOZENGEznMEDIUM DIAMONDhLOZENGE
hSMALL SQUARElQUAREfTARkOON SELENAlNIBdPARALLELOGRAMmENNANTeTAGONiQUESTION MARK ORNAMENTwRECTANGLE
iIGHT POINTING BACKHAND INDEXoINDEXp-POINTING PENTAGONhOINTERhSMALL TRIANGLEoTRIANGLExSCISSORShESA
ME DOTjHOGI PIECEkMALL LOZENGEhSQUAREfTARiILING FACElPADE SUITjQUAREa BUTTONgCONTAINING BLACK MEDI
UM SQUAREnSMALL SQUAREmVERY SMALL SQUAREzjWITH CENTRE VERTICAL LINEuLEFTWARDS TICKnOWER LEFT QUADR
ANTnRIGHT QUADRANTuRIGHTWARDS TICKoOUNDED CORNERSpUPPER LEFT QUADRANTnRIGHT QUADRANTuVERTICAL BISE
CTING LINEzjTARdUNa BEHIND CLOUDa WITH RAINwWITH RAYSeSMALL CLOUDuTELEPHONEiOUCHTONE TELEPHONEsRAP
EZIUMhIANGLE CONTAINING SMALL WHITE TRIANGLEzoWO-WAY LEFT WAY TRAFFICyUP POINTING BACKHAND INDEXoI
NDEXp-POINTING CHEVRONhSMALL TRIANGLEoTRIANGLEa WITH DOTzeVERTICAL BARdELLIPSEhRECTANGLEpY SMALL S
QUAREs-FEATHERED RIGHTWARDS ARROWzgIDE-HEADED DOWNWARDS BARB ARROWkHEAVY BARB ARROWqLIGHT BARB ARR
OWqMEDIUM BARB ARROWrVERY HEAVY BARB ARROWzgLEFTWARDS BARB ARROWkHEAVY BARB ARROWqLIGHT BARB ARROW
qMEDIUM BARB ARROWrVERY HEAVY BARB ARROWzgNORTH EAST BARB ARROWkHEAVY BARB ARROWqLIGHT BARB ARROWq
MEDIUM BARB ARROWrVERY HEAVY BARB ARROWzbWEST BARB ARROWkHEAVY BARB ARROWqLIGHT BARB ARROWqMEDIU
M BARB ARROWrVERY HEAVY BARB ARROWzhRIGHTWARDS BARB ARROWkHEAVY BARB ARROWqLIGHT BARB ARROWqMEDIU
M BARB ARROWrVERY HEAVY BARB ARROWzhSOUTH EAST BARB ARROWkHEAVY BARB ARROWqLIGHT BARB ARROWqMEDIU
M BARB ARROWrVERY HEAVY BARB ARROWzbWEST BARB ARROWkHEAVY BARB ARROWqLIGHT BARB ARROWqMEDIUM BAR
B ARROWrVERY HEAVY BARB ARROWzhUPWARDS BARB ARROWkHEAVY BARB ARROWqLIGHT BARB ARROWqMEDIUM BARB AR
ROWrVERY HEAVY BARB ARROWzoGGLY VERTICAL LINEsLTED FLOWERlND BLOWING FACEmCHIMEgOWdE GLASShKING FA
CEkRED KEYBOARDnJbOLF FACEhMANa WITH BUNNY EARSqS BOOTSfCLOTHEShHATdSANDALkENS SYMBOLlN SIGNgODcR
D JOINERgSEPARATOR MIDDLE DOTwLD MAPgMbRIED FACElRAPPED PRESENTnEATH PRODUCTlNCHdSTLERShITING HAND
mX IN A RECTANGLE BOXt-RAYeIANGQI BLACK CANNONfHARIOThELEPHANTiGENERALhHORSEfMANDARINiSOLDIERnRE
D CANNONfHARIOThELEPHANTiGENERALhHORSEfMANDARINiSOLDIERsORdYAWNING FACElELLOW HEARTkN SIGNgZIDI CO
MBINING HAMZA MARKkMADDA MARKuHYPHENATION MARKqLETTER BEcCHHIMdIMdIMdDADbLdELIFdTbWbYNdFAcGAFdHAYc
HAdJAcKAFcHAFeLAMa WITH DOT ABOVEsMIMdNUNdOWcPEbHEdQAFdRAbHAdSADcEbHINdINdTAbHEdUMcVAa ALTERNATE F
ORMrWAWdXAbHEYNfYOTa WITH CIRCUMFLEX ABOVEzaZAaLcEpI RADICAL BBUTdURdCHEcIPcUOPdYaPbTdDDURdUcGAbEP
cGOPcUOdOTdHMOcXITcOPcUOeJJIEcUTcYcOcKEbITdLIaEcYRdMIbOPdNBIEdYIPcOPdZUPeOPcPUTcYTdQOTdSHATcOPcURc
YcSIdTATcUcVEPcURdWOcYITcOcZAbOTcUPbRcZIETnSYLLABLE AaPbTbXcBAaPbTbXcBAaPbTbXcEaPbXcIaEaPbTbXcPbTb
XcOaPbTbXcUaOaPbXcPbRaXcTbXcYaPbTbXdEaPbXcIaEaPbTbXcPbTbXcOaPbTbXcUaOaPbXcPbRaXcTbXcYaPbRaXcTbXdCA
aPbTbXcEaPbXcHAaPbTbXcEaPbTbXcOaPbTbXcUaOaPbTbXcPbRaXcXcYaPbRaXcTbXdIaEaPbTbXcPbTbXcOaPbTbXcUaOaPb
XcPbRaXcTbXcYaPbRaXcTbXdDAaPbTbXcDAaPbTbXcEaPbXcIaEaPbXcPbTbXcOaPbTbXcUaOaPbXcPbRaXcTbXdEaPbXcIaEa
PbXcPbTbXcOaPbTbXcUaOaXcPbRaXcTbXdEaXcFAaPbTbXcIaPbTbXcOaPbXcUaPbRaXcTbXcYaPbTbXdGAaPbTbXcEaPbTbXc
GAaPbTbXcEaPbTbXcIaEaPbXcTbXcOaPbTbXcUaOaPbTbXcPbRaXcTbXdIaEaPbTbXcPbTbXcOaPbTbXcUaOaPbTbXcPbRaXcT
bXdHAaPbTbXcEaPbXcIEaXcTcLAaPbTbXcEaPbXcIaEaPbXcPbTbXcOaPbXcUaOaPbXcPbRaXcTbXcYaPbRaXcTbXdMAaPbTbX
cIaEaPbXcPbTbXcOaPbTbXcUaOaPbXcPbRaXcTbXcYaPbRaXcXdNAaPbTbXcEaPbXcIaEaPbTbXcPbTbXcOPbTbXcUOaXcTdOa
PbTbXcUOaPbTbXdXAaPbTbXcEaPbXcIaEaPbTbXcPbTbXcOaPbTbXcUOaPbTbXfIaEaPbTbXcPbTaERATION MARKnXcJIaEaP
bTbXcPbTbXcJIaEaPbTbXcPbTbXcOaPbTbXcUaOaPbXcPbRaXcTbXcYaPbTbXdOaPbTbXcUaOaPbTbXcPbRaXcTbXcYaPbRaXc
TbXdKAaPbTbXcEaPbTbXcIaEaPbXcPbTbXcOaPbTbXcUaOaPbXcPbRaXcTbXdLAaPbTbXcEaPbXcIaEaPbTbXcPbTbXcOaPbTb
XcUaOaPbTbXcPbRaXcTbXcYaPbRaXcTbXdMAaPbTbXcEaXcGAaPbTbXcEaPbXcIEaXdOaPbTbXcUaOaPbXcPbRaXcTbXdIaEaP
bXcPbTbXcOaPbTbXcUaOaPbTbXcPbRaXcTbXcYaPbTbXdNAaPbXcBAaPbTbXcIaEaPbXcPbTbXcOaPbTbXcUaPbRaXcTbXcYaP
bRaXcTbXdDAaPbTbXcEaPbXcIaEaXcPbTbXcOaPbTbXcUaPbRaXcTbXdEaPbXcGAaPbTbXcEaPbXcIEaPbXdOaPbTbXcUOaTbX
eIaEaPbXcPbTbXcJIaEaPbTbXcPbTbXcOaPbTbXcUaOaXcPbRaXcXcYaPbRaXcTbXdOaPbTbXcRAaPbTbXcEaPbTbXcOaPbXcU
aPbRaXcTbXcYaPbRaXcTbXdUaOaPbXcPbRaXcTbXcYIaEaPbTbXcPbTbXcOaPbTbXcUaOaPbXcPbTbXdZAaPbTbXcEaXcIaEaP
bXcPbTbXcOPbXcUaOaXcPbRaXcXcYaPbRaXcTbXeOaPbTbXcPAaPbTbXcIaEaPbXcPbTbXcOaPbTbXcUaOaPbXcPbRaXcTbXcY
aPbRaXcTbXdQIaEaPbTbXcPbTbXcOaPbTbXcUaOaPbTbXcPbRaXcTbXcYaPbRaXcTbXdRAaPbTbXcEaPbXcOaPbTbXcRAaXcEa
PbTbXcOaPbTbXcUaOaXcPbRaXcTbXcYaPbRaXcTbXdUaOaPbXcPbRaXcTbXcYaPbRaXcTbXdSAaPbTbXcEaPbXcHAaPbTbXcEa
PbTbXcOaPbTbXcUaOaPbXcPbRaXcTbXcYaPbRaXcTbXdIaEaPbXcPbTbXcOaPbTbXcSAaPbTbXcEaPbXcIaEaPbXcPbTbXcOaP
bTbXcUaPbTbXcYaPbRaXcTbXdUaOaPbXcPbRaXcTbXcYaPbRaXcTbXdTAaPbTbXcEaPbXcIaEaPbXcPbTbXcOaPbTbXcUaOaPb
TbXcPbRaXcTbXdUOaPbXdVAaPbTbXcEPbXcIaEaPbTbXcPbTbXcOaPbTbXcUaPbRaXcTbXcYaPbRaXcTbXdWAaPbTbXcEaPbXc
OaPbXcUaOaPbXeXIaEaPbTbXcPbTbXcOaPbTbXcUOaXdYaPbRaXcTbXdYIaEaPbTbXcPbTbXcOaPbTbXcUaOaPbTbXcPbRaXcT
bXcYaPbRaXcTbXdZAaPbTbXcEaPbXcHAaPbTbXcEaPbTbXcOaPbTbXcUaOaPbXcPbRaXcTbXcYaPbRaXcTbXdIaEaPbXcPbTbX
cOaPbTbXcUaOaPbXcPbRaXcTbXcYaPbRaXcTbXcZAaPbTbXcEaPbXcIaEaPbTbXcPbTbXcOaPbXcUaPbRaXcXcYaPbRaXcTbXo
N YANGhO-YOfZ NOTATION BAG MEMBERSHIPoDOMAIN ANTIRESTRICTIONwLEFT BINDING BRACKETpIMAGE BRACKETsRA
NGE ANTIRESTRICTIONuELATIONAL COMPOSITIONvIGHT BINDING BRACKETpIMAGE BRACKETtSCHEMA COMPOSITIONlPI
PINGfROJECTIONqPOTeTYPE COLONuANABAZAR SQUARE CLOSING DOUBLE-LINED HEAD MARKwHEAD MARKpUSTER-FINA
L LETTER LAcRAcVAcYApINITIAL LETTER RAzaFINAL CONSONANT MARKuINITIAL DOUBLE-LINED HEAD MARKwHEAD M
ARKrLETTER -AcAbBAbHAdCAbHAdDAbDAbHAdHAcZAbHAeGAbHAdHAcJAcKAbHAcSSAeLAcMAcNAbGAcNAcYAdPAbHAdRAcSAb
HAcSAdTAbHAcSAbHAdTAbHAeVAcYAcZAbHAkMARK DOUBLE SHADlLONG TSHEGkSHADeTSHEGkSIGN ANUSVARAiCANDRA WI
TH ORNAMENToBINDUa WITH ORNAMENTzaVIRAMAeSARGAlUBJOINERjVOWEL LENGTH MARKlSIGN AIbUcEbIbOaEcREVERS
ED IkUaEzeEBRA FACEiRO WIDTH JOINERgNO-BREAK SPACEmN-JOINERkSPACEoUSdIPPER-MOUTH FACEqNAMENNY COMB
INING ATTACHING VERTICAL OMETxLOWER TONAL RANGE INDICATORzcMARK BORZAYAhCHASHKAa POLNAYAoURVED OME
TlDEMESTVENNY ZADERZHKAuVOETOCHIEkGORAZDO NIZKO ON LEFTeRIGHTiS KRYZHEM ON LEFTeRIGHTyVYSOKOoKACHK
AfRYZHa ON LEFTmUPNAYAhLOMKAfMALO POVYSHE ON LEFTeRIGHTiS KHOKHLOM ON LEFTeRIGHTqRYZHEMiTRANNOuNIZ
KO ON LEFTeRIGHTiS KRYZHEM ON LEFTeRIGHTyOBLACHKOhNbTSECHKAiPODCHASHIEa WITH VERTICAL STROKEzdVERT
KAhVYSHE ON LEFTeRIGHTiS KHOKHLOM ON LEFTeRIGHTqRYZHEMiTRANNOpRAVNOdZSEKAhSKOBAeOROCHYA NOZHKAoRED
NE ON LEFTeRIGHToTRANNO MALO POVYSHEuTIKHAYAgOCHKAfSATA ON LEFTeRIGHTiS KRYZHEMpUDARKAgVYSOKO ON L
EFTeRIGHTiS KHOKHLOM ON LEFTeRIGHTqRYZHEMqZADERZHKAiELOcVOKkTONAL RANGE MARK MRACHNOhSVETLOgTRESVE
TLOzlNEUME CHASHKAfELYUSTKAkDEMESTVENNY KLYUCHqRBITSAhOUBLE ZAPYATAYApUDAdVA V CHELNUmFITAeGOLUBCH
IK BORZYfMRACHNYhSVETLYgTIKHYeRESVETLYtKHAMILOgLYUCHfOBYLAfRYUKa TIKHYiZHeUFISMAhMECHIKa KLYUCHENE
POSTOYANNYmPOVODNYhVOYkPOVODNYoNEMKAfOBLAKOfSOKAa KLYUCHEVAYA NEPOSTOYANNAYAoSVETLAYAtRYUKOVAYA SV
ETLAYAtSVETLAYAiTRESVETLAYArPALKAdRAKLITgUKdEREVODKAa NEPOSTOYANNAYAxODCHASHIEiLKULIZMYkREVERSED C
HELYUSTKAsOGdSKAMEYTSA DVOECHELNAYA KLYUCHEVAYAlNEPOSTOYANNAYAoPROSTAYAiSVETLAYAvKLYUCHENEPOSTOYAN
NAYAoVAYA SVETLAYAiTIKHAYAtMRACHNAYAjSVETLAYAiTIKHAYAgRESVETLAYAuLOZHITIEa S KRYZHEMhZAPYATOYkZAKR
YTOErTATYAa NEPOSTOYANNAYAoS DVUMYA ZAPYATYMIqKRYZHEMa I ZAPYATOYsROGOMfZAPYATOYa I KRYZHEMhPODCHA
SHIEMyZAKRYTAYAa S ZAPYATOYzaOPITSAa S OCHKOMiWITH SOROCHYA NOZHKAzcRELA DVOECHELNAYAa KLYUCHEVAYA
pOKRYZHEVAYAkPOVODNAYAa KLYUCHEVAYAzgGROMNAYAa WITH SINGLE ZAPYATAYAzbOKRYZHEVAYAa POVODNAYAuPOVOD
NAYAa WITH DOUBLE ZAPYATAYAqSINGLE ZAPYATAYAzlKLYUCHENEPOSTOYANNAYAoPOVODNAYApRYUKOVAYAa GROMNAYA
a WITH SINGLE ZAPYATAYAzbOKRYZHEVAYAa POVODNAYAuPOVODNAYAa WITH DOUBLE ZAPYATAYAqSINGLE ZAPYATAYAz
lPOVODNAYAjTRYASKApZHEVAYAkMRACHNOTIKHAYAoNEPOSTOYANNAYAoPOLUPOVODNAYAlVODNAYAiROSTAYAiTIKHAYA PUT
NAYAoRYASOGLASNAYAiPOVODNAYAjSTRELNAYAwVRAKHIYA KLYUCHEVAYA MRACHNAYAjPROSTAYAiSVETLAYAiTRESVETLAY
AxMRACHNAYAjPROSTAYAiSVETLAYAiTRESVETLAYAuZANOZHEKgPYATAYAiMEYTSAnPRIZNAK MODIFIER DIRECTION FLIPo
KRYZHfLEVEL-2b3hROGzdOMBIEfWJbNBSPdJcSPa"

end Phrasebook.Text
