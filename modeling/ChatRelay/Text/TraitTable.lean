/-!
# Traits of characters, as a table

The words of the table cover the characters beyond ASCII that may stand in host names, in ascending
order.  A word begins with the first code point it speaks of, in hexadecimal, and holds up to the
next word.  Then come the direction of these characters (`l` to the right, `r` to the left, `d` a
digit, `g` a digit of a script that is written to the left, `n` neutral, `m` that of what it is put
on), how they join (`w` on both sides, `y` with what is before them, `z` with what is behind them,
`t` they are passed over), `k` for marks, and the place of a mark among the marks of one character.
-/

namespace ChatRelay.Text

/-- the traits of the characters beyond ASCII -/
def traitTable : String := "
  DFl F7n F8l 2B9n 2BBl 2C2n 2D0l 2D2n 2EEl 2EFn 300mtk230 315mtk232 316mtk220 31Amtk232 31Bmtk216
  31Cmtk220 321mtk202 323mtk220 327mtk202 329mtk220 334mtk1 339mtk220 33Dmtk230 347mtk220
  34Amtk230 34Dmtk220 350mtk230 353mtk220 357mtk230 358mtk232 359mtk220 35Bmtk230 35Cmtk233
  35Dmtk234 35Fmtk233 360mtk234 362mtk233 363mtk230 371l 375n 377l 3F6n 3F8l 483mtk230 488mtk 48Bl
  58An 591mtk220 592mtk230 596mtk220 597mtk230 59Amtk222 59Bmtk220 59Cmtk230 5A2mtk220 5A8mtk230
  5AAmtk220 5ABmtk230 5ADmtk222 5AEmtk228 5AFmtk230 5B0mtk10 5B1mtk11 5B2mtk12 5B3mtk13 5B4mtk14
  5B5mtk15 5B6mtk16 5B7mtk17 5B8mtk18 5B9mtk19 5BBmtk20 5BCmtk21 5BDmtk22 5BEr 5BFmtk23 5C0r
  5C1mtk24 5C2mtk25 5C3r 5C4mtk230 5C5mtk220 5C6r 5C7mtk18 5D0r 606n 608r 609n 60Br 60Cn 60Dr 60En
  610mtk230 618mtk30 619mtk31 61Amtk32 61Br 620rw 621r 622ry 626rw 627ry 628rw 629ry 62Arw 62Fry
  633rw 640r 641rw 648ry 649rw 64Bmtk27 64Cmtk28 64Dmtk29 64Emtk30 64Fmtk31 650mtk32 651mtk33
  652mtk34 653mtk230 655mtk220 657mtk230 65Cmtk220 65Dmtk230 65Fmtk220 660g 66An 66Bg 66Dr 66Erw
  670mtk35 671ry 674r 679rw 688ry 69Arw 6C0ry 6C1rw 6C3ry 6CCrw 6CDry 6CErw 6CFry 6D0rw 6D2ry 6D4r
  6D5ry 6D6mtk230 6DEn 6DFmtk230 6E3mtk220 6E4mtk230 6E5r 6E7mtk230 6E9n 6EAmtk220 6EBmtk230
  6EDmtk220 6EEry 6F0d 6FArw 6FDr 6FFrw 700r 710ry 711mtk36 712rw 715ry 71Arw 71Ery 71Frw 728ry
  729rw 72Ary 72Brw 72Cry 72Drw 72Fry 730mtk230 731mtk220 732mtk230 734mtk220 735mtk230 737mtk220
  73Amtk230 73Bmtk220 73Dmtk230 73Emtk220 73Fmtk230 742mtk220 743mtk230 744mtk220 745mtk230
  746mtk220 747mtk230 748mtk220 749mtk230 74Dry 74Erw 759ry 75Crw 76Bry 76Drw 771ry 772rw 773ry
  775rw 778ry 77Arw 780r 7A6mtk 7B1r 7CArw 7EBmtk230 7F2mtk220 7F3mtk230 7F4r 7F6n 7FAr 7FDmtk220
  7FEr 816mtk230 81Ar 81Bmtk230 824r 825mtk230 828r 829mtk230 830r 840ry 841rw 846ry 848rw 849ry
  84Arw 854ry 855rw 856ry 859mtk220 85Er 860rw 861r 862rw 866r 867ry 868rw 869ry 883r 886rw 887r
  889rw 88Ery 88Frw 897mtk230 899mtk220 89Cmtk230 8A0rw 8AAry 8ADr 8AEry 8AFrw 8B1ry 8B3rw 8B9ry
  8BArw 8C9r 8CAmtk230 8CFmtk220 8D4mtk230 8E3mtk220 8E4mtk230 8E6mtk220 8E7mtk230 8E9mtk220
  8EAmtk230 8EDmtk220 8F0mtk27 8F1mtk28 8F2mtk29 8F3mtk230 8F6mtk220 8F7mtk230 8F9mtk220 8FBmtk230
  900mtk 903lk 904l 93Amtk 93Blk 93Cmtk7 93Dl 93Elk 941mtk 949lk 94Dmtk9 94Elk 950l 951mtk230
  952mtk220 953mtk230 955mtk 960l 962mtk 964l 981mtk 982lk 985l 9BCmtk7 9BDl 9BElk 9C1mtk 9C7lk
  9CDmtk9 9CEl 9D7lk 9E0l 9E2mtk 9E6l 9F2n 9F4l 9FBn 9FCl 9FEmtk230 A01mtk A03lk A05l A3Cmtk7
  A3Elk A41mtk A4Dmtk9 A51mtk A5Cl A70mtk A72l A75mtk A76l A81mtk A83lk A85l ABCmtk7 ABDl ABElk
  AC1mtk AC9lk ACDmtk9 AD0l AE2mtk AE6l AF1n AF9l AFAmtk B02lk B05l B3Cmtk7 B3Dl B3Elk B3Fmtk
  B40lk B41mtk B47lk B4Dmtk9 B55mtk B57lk B5Fl B62mtk B66l B82mtk B83l BBElk BC0mtk BC1lk BCDmtk9
  BD0l BD7lk BE6l BF3n C00mtk C01lk C04mtk C05l C3Cmtk7 C3Dl C3Emtk C41lk C46mtk C4Dmtk9 C55mtk84
  C56mtk91 C58l C62mtk C66l C78n C7Fl C81mtk C82lk C84l CBCmtk7 CBDl CBElk CBFltk CC0lk CC6ltk
  CC7lk CCCmtk CCDmtk9 CD5lk CDCl CE2mtk CE6l CF3lk D00mtk D02lk D04l D3Bmtk9 D3Dl D3Elk D41mtk
  D46lk D4Dmtk9 D4El D57lk D58l D62mtk D66l D81mtk D82lk D85l DCAmtk9 DCFlk DD2mtk DD8lk DE6l
  DF2lk DF4l E31mtk E32l E34mtk E38mtk103 E3Amtk9 E3Fn E40l E47mtk E48mtk107 E4Cmtk E4Fl EB1mtk
  EB2l EB4mtk EB8mtk118 EBAmtk9 EBBmtk EBDl EC8mtk122 ECCmtk ED0l F18mtk220 F1Al F35mtk220 F36l
  F37mtk220 F38l F39mtk216 F3An F3Elk F40l F71mtk129 F72mtk130 F74mtk132 F7Amtk130 F7Emtk F7Flk
  F80mtk130 F82mtk230 F84mtk9 F85l F86mtk230 F88l F8Dmtk FBEl FC6mtk220 FC7l 102Blk 102Dmtk 1031lk
  1032mtk 1037mtk7 1038lk 1039mtk9 103Blk 103Dmtk 103Fl 1056lk 1058mtk 105Al 105Emtk 1061l 1062lk
  1065l 1067lk 106El 1071mtk 1075l 1082mtk 1083lk 1085mtk 1087lk 108Dmtk220 108El 108Flk 1090l
  109Alk 109Dmtk 109El 135Dmtk230 1360l 1390n 13A0l 1400n 1401l 169Bn 16A0l 1712mtk 1714mtk9
  1715lk9 171Fl 1732mtk 1734lk9 1735l 1752mtk 1760l 1772mtk 1780l 17B6lk 17B7mtk 17BElk 17C6mtk
  17C7lk 17C9mtk 17D2mtk9 17D3mtk 17D4l 17DBn 17DCl 17DDmtk230 17E0l 17F0n 1807nw 1808n 1810l
  1820lw 1880l 1885mtk 1887lw 18A9mtk228 18AAlw 18B0l 1920mtk 1923lk 1927mtk 1929lk 1932mtk 1933lk
  1939mtk222 193Amtk230 193Bmtk220 1940n 1946l 19DEn 1A00l 1A17mtk230 1A18mtk220 1A19lk 1A1Bmtk
  1A1El 1A55lk 1A56mtk 1A57lk 1A58mtk 1A60mtk9 1A61lk 1A62mtk 1A63lk 1A65mtk 1A6Dlk 1A73mtk
  1A75mtk230 1A7Fmtk220 1A80l 1AB0mtk230 1AB5mtk220 1ABBmtk230 1ABDmtk220 1ABEmtk 1ABFmtk220
  1AC1mtk230 1AC3mtk220 1AC5mtk230 1ACAmtk220 1ACBmtk230 1ADDmtk220 1AE0mtk230 1AE6mtk220
  1AE7mtk230 1AEBmtk234 1B00mtk 1B04lk 1B05l 1B34mtk7 1B35lk 1B36mtk 1B3Blk 1B3Cmtk 1B3Dlk 1B42mtk
  1B43lk 1B44lk9 1B45l 1B6Bmtk230 1B6Cmtk220 1B6Dmtk230 1B74l 1B80mtk 1B82lk 1B83l 1BA1lk 1BA2mtk
  1BA6lk 1BA8mtk 1BAAlk9 1BABmtk9 1BACmtk 1BAEl 1BE6mtk7 1BE7lk 1BE8mtk 1BEAlk 1BEDmtk 1BEElk
  1BEFmtk 1BF2lk9 1BFCl 1C24lk 1C2Cmtk 1C34lk 1C36mtk 1C37mtk7 1C3Bl 1CD0mtk230 1CD3l 1CD4mtk1
  1CD5mtk220 1CDAmtk230 1CDCmtk220 1CE0mtk230 1CE1lk 1CE2mtk1 1CE9l 1CEDmtk220 1CEEl 1CF4mtk230
  1CF5l 1CF7lk 1CF8mtk230 1CFAl 1DC0mtk230 1DC2mtk220 1DC3mtk230 1DCAmtk220 1DCBmtk230 1DCDmtk234
  1DCEmtk214 1DCFmtk220 1DD0mtk202 1DD1mtk230 1DF6mtk232 1DF7mtk228 1DF9mtk220 1DFAmtk218
  1DFBmtk230 1DFCmtk233 1DFDmtk220 1DFEmtk230 1DFFmtk220 1E01l 200Cn 20D0mtk230 20D2mtk1
  20D4mtk230 20D8mtk1 20DBmtk230 20DDmtk 20E1mtk230 20E2mtk 20E5mtk1 20E7mtk230 20E8mtk220
  20E9mtk230 20EAmtk1 20ECmtk220 20F0mtk230 2104n 214El 218An 2336l 237Bn 2395l 2396n 2427l 2440n
  26ACl 26ADn 2800l 2900n 2B96l 2B97n 2C30l 2CE5n 2CECl 2CEFmtk230 2CF3l 2CF9n 2D00l 2D7Fmtk9
  2D80l 2DE0mtk230 2E00n 3005l 3008n 3021l 302Amtk218 302Bmtk228 302Cmtk232 302Dmtk222 302Elk224
  3030n 3031l 3037n 303Bl 303Dn 3041l 3099mtk8 309Dl 30A0n 30A1l 30FBn 30FCl 31C0n 31E4l 4DC0n
  4E00l A490n A4D0l A60Dn A610l A66Fmtk230 A670mtk A673n A674mtk230 A67En A681l A69Emtk230 A6A0l
  A6F0mtk230 A6F2l A700n A723l A788n A789l A802mtk A803l A806mtk9 A807l A80Bmtk A80Cl A823lk
  A825mtk A827lk A828n A82Cmtk9 A830l A838n A840lw A872lz A873l A874n A880lk A882l A8B4lk A8C4mtk9
  A8C5mtk A8CEl A8E0mtk230 A8F2l A8FFmtk A900l A926mtk A92Bmtk220 A92El A947mtk A952lk A953lk9
  A95Fl A980mtk A983lk A984l A9B3mtk7 A9B4lk A9B6mtk A9BAlk A9BCmtk A9BElk A9C0lk9 A9C1l A9E5mtk
  A9E6l AA29mtk AA2Flk AA31mtk AA33lk AA35mtk AA40l AA43mtk AA44l AA4Cmtk AA4Dlk AA50l AA7Blk
  AA7Cmtk AA7Dlk AA7El AAB0mtk230 AAB1l AAB2mtk230 AAB4mtk220 AAB5l AAB7mtk230 AAB9l AABEmtk230
  AAC0l AAC1mtk230 AAC2l AAEBlk AAECmtk AAEElk AAF0l AAF5lk AAF6mtk9 AB01l AB6An ABC0l ABE3lk
  ABE5mtk ABE6lk ABE8mtk ABE9lk ABEBl ABEClk ABEDmtk9 ABF0l FB1Emtk26 FBB2r FD3En FD90r FDCFn
  FE20mtk230 FE27mtk220 FE2Emtk230 FE45n FE73r 10000l 10101n 10102l 10140n 1018Dl 10190n 101D0l
  101FDmtk220 10280l 102E0mtk220 102E1d 10300l 10376mtk230 10380l 10800r 1091Fn 10920r 10A01mtk
  10A0Dmtk220 10A0Emtk 10A0Fmtk230 10A10r 10A38mtk230 10A39mtk1 10A3Amtk220 10A3Fmtk9 10A40r
  10AC0rw 10AC5ry 10AC6r 10AC7ry 10AC8r 10AC9ry 10ACBr 10ACDrz 10ACEry 10AD3rw 10AD7rz 10AD8rw
  10ADDry 10ADErw 10AE1ry 10AE2r 10AE4ry 10AE5mtk230 10AE6mtk220 10AEBrw 10AEFry 10AF0r 10B39n
  10B40r 10B80rw 10B81ry 10B82rw 10B83ry 10B86rw 10B89ry 10B8Arw 10B8Cry 10B8Drw 10B8Ery 10B90rw
  10B91ry 10B99r 10BA9ry 10BADrw 10BAFr 10D00rz 10D01rw 10D22ry 10D23rw 10D24mtk230 10D30g 10D40r
  10D69mtk230 10D6Er 10E60g 10E80r 10EABmtk230 10EADr 10EC2ry 10EC3rw 10EC5r 10EC6rw 10ED0r
  10EFAmtk220 10EFCmtk 10EFDmtk220 10F00r 10F30rw 10F33ry 10F34rw 10F45r 10F46mtk220 10F48mtk230
  10F4Bmtk220 10F4Cmtk230 10F4Dmtk220 10F51rw 10F54ry 10F55r 10F70rw 10F74ry 10F76rw 10F82mtk230
  10F83mtk220 10F84mtk230 10F85mtk220 10F86r 10FB0rw 10FB1r 10FB2rw 10FB4ry 10FB7r 10FB8rw 10FB9ry
  10FBBrw 10FBDry 10FBErw 10FC0r 10FC1rw 10FC2ry 10FC4rw 10FC5r 10FC9ry 10FCArw 10FCBrz 10FE0r
  11000lk 11001mtk 11002lk 11003l 11038mtk 11046mtk9 11047l 11052n 11066l 11070mtk9 11071l
  11073mtk 11075l 1107Fmtk9 11080mtk 11082lk 11083l 110B0lk 110B3mtk 110B7lk 110B9mtk9 110BAmtk7
  110BBl 110C2mtk 110D0l 11100mtk230 11103l 11127mtk 1112Clk 1112Dmtk 11133mtk9 11136l 11145lk
  11147l 11173mtk7 11174l 11180mtk 11182lk 11183l 111B3lk 111B6mtk 111BFlk 111C0lk9 111C1l
  111C9mtk 111CAmtk7 111CBmtk 111CDl 111CElk 111CFmtk 111D0l 1122Clk 1122Fmtk 11232lk 11234mtk
  11235lk9 11236mtk7 11237mtk 11238l 1123Emtk 1123Fl 11241mtk 11280l 112DFmtk 112E0lk 112E3mtk
  112E9mtk7 112EAmtk9 112F0l 11300mtk 11302lk 11305l 1133Bmtk7 1133Dl 1133Elk 11340mtk 11341lk
  1134Dlk9 11350l 11357lk 1135Dl 11362lk 11366mtk230 11380l 113B8lk 113BBmtk 113C2lk 113CEmtk9
  113CFlk9 113D0mtk9 113D1l 113D2mtk 113D3l 113E1mtk 11400l 11435lk 11438mtk 11440lk 11442mtk9
  11443mtk 11445lk 11446mtk7 11447l 1145Emtk230 1145Fl 114B0lk 114B3mtk 114B9lk 114BAmtk 114BBlk
  114BFmtk 114C1lk 114C2mtk9 114C3mtk7 114C4l 115AFlk 115B2mtk 115B8lk 115BCmtk 115BElk 115BFmtk9
  115C0mtk7 115C1l 115DCmtk 11600l 11630lk 11633mtk 1163Blk 1163Dmtk 1163Elk 1163Fmtk9 11640mtk
  11641l 11660n 11680l 116ABmtk 116AClk 116ADmtk 116AElk 116B0mtk 116B6lk9 116B7mtk7 116B8l
  1171Dmtk 1171Emk 1171Fmtk 11720lk 11722mtk 11726lk 11727mtk 1172Bmtk9 11730l 1182Clk 1182Fmtk
  11838lk 11839mtk9 1183Amtk7 1183Bl 11930lk 1193Bmtk 1193Dlk9 1193Emtk9 1193Fl 11940lk 11941l
  11942lk 11943mtk7 11944l 119D1lk 119D4mtk 119DClk 119E0mtk9 119E1l 119E4lk 11A00l 11A01mtk
  11A07ltk 11A09mtk 11A0Bl 11A33mtk 11A34mtk9 11A35mtk 11A39lk 11A3Al 11A3Bmtk 11A3Fl 11A47mtk9
  11A50l 11A51mtk 11A57lk 11A59mtk 11A5Cl 11A8Amtk 11A97lk 11A98mtk 11A99mtk9 11A9Al 11B60mtk
  11B61lk 11B62mtk 11B65lk 11B66mtk 11B67lk 11BC0l 11C2Flk 11C30mtk 11C3Elk 11C3Fltk9 11C40l
  11C92mtk 11CA9lk 11CAAmtk 11CB1lk 11CB2mtk 11CB4lk 11CB5mtk 11D00l 11D31mtk 11D42mtk7 11D43mtk
  11D44mtk9 11D46l 11D47mtk 11D50l 11D8Alk 11D90mtk 11D93lk 11D95mtk 11D96lk 11D97mtk9 11D98l
  11EF3mtk 11EF5lk 11EF7l 11F00mtk 11F02l 11F03lk 11F04l 11F34lk 11F36mtk 11F3Elk 11F40mtk
  11F41lk9 11F42mtk9 11F43l 11F5Amtk 11FB0l 11FD5n 11FFFl 13440mtk 13441l 13447mtk 13460l 1611Emtk
  1612Alk 1612Dmtk 1612Fmtk9 16130l 16AF0mtk1 16AF5l 16B30mtk230 16B37l 16F4Fmtk 16F50l 16F51lk
  16F8Fmtk 16F93l 16FE2n 16FE3l 16FE4mtk 16FF0lk6 16FF2l 1BC9Dmtk 1BC9Emtk1 1BC9Fl 1CF00mtk 1CF50l
  1D165lk216 1D167mtk1 1D16Al 1D16Dlk226 1D16Elk216 1D17Bmtk220 1D183l 1D185mtk230 1D18Amtk220
  1D18Cl 1D1AAmtk230 1D1AEl 1D1E9n 1D242mtk230 1D245n 1D2C0l 1D300n 1D360l 1DA00mtk 1DA37l
  1DA3Bmtk 1DA6Dl 1DA75mtk 1DA76l 1DA84mtk 1DA85l 1DA9Bmtk 1DF00l 1E000mtk230 1E100l 1E130mtk230
  1E137l 1E2AEmtk230 1E2C0l 1E2ECmtk230 1E2F0l 1E2FFn 1E4D0l 1E4ECmtk232 1E4EEmtk220 1E4EFmtk230
  1E4F0l 1E5EEmtk230 1E5EFmtk220 1E5F0l 1E6E3mtk230 1E6E4l 1E6E6mtk230 1E6E7l 1E6EEmtk230 1E6F0l
  1E6F5mtk230 1E6FEl 1E800r 1E8D0mtk220 1E922rw 1E944mtk230 1E94Amtk7 1E94Brt 1E950r 1EEF0n 1F150l
  1F16Dn 1F170l 1F1ADn 1F1E6l 1F260n 1F6D8l 1F6DCn 1F777l 1F77Bn 1F8B2l 1F900n 1FA54l 1FA60n
  1FA89l 1FA90n 1FABEl 1FABFn 1FAC6l 1FACEn 1FADCl 1FAE0n 1FAE9l 1FAF0n 1FBCBl"

end ChatRelay.Text
